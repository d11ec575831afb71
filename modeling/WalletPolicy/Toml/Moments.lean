import WalletPolicy.Toml.Basic

/-!
A table whose first key is `momentKey` stands for the date that the text of this key spells.
`withoutMoments` is for readers that know no dates: to them a date is a table without keys.
-/
namespace WalletPolicy.Toml

def momentKey : String := "$__toml_private_datetime"

def marked? : List (String × Toml) → Option Toml
  | [] => none
  | (key, value) :: _ => if key = momentKey then some value else none

def spelledMoment? : Toml → Option Moment
  | .text written => Moment.read? written.toList
  | _ => none

mutual

/-- A tree with a date for every table that is marked as one. There is none if a mark has no date.
The other keys of a marked table do not count. -/
def withMarkedMoments? : Toml → Option Toml
  | .array items => (itemsWithMarkedMoments? items).map .array
  | .table entries =>
    match marked? entries with
    | some value => (spelledMoment? value).map .moment
    | none => (entriesWithMarkedMoments? entries).map .table
  | leaf => some leaf
termination_by structural tree => tree

def itemsWithMarkedMoments? : List Toml → Option (List Toml)
  | [] => some []
  | item :: items => do
    let item ← item.withMarkedMoments?
    let items ← itemsWithMarkedMoments? items
    some (item :: items)
termination_by structural items => items

def entriesWithMarkedMoments? : List (String × Toml) → Option (List (String × Toml))
  | [] => some []
  | (key, value) :: entries => do
    let value ← value.withMarkedMoments?
    let entries ← entriesWithMarkedMoments? entries
    some ((key, value) :: entries)
termination_by structural entries => entries

end

mutual

def withoutMoments : Toml → Toml
  | .moment _ => .table []
  | .array items => .array (itemsWithoutMoments items)
  | .table entries => .table (entriesWithoutMoments entries)
  | leaf => leaf
termination_by structural tree => tree

def itemsWithoutMoments : List Toml → List Toml
  | [] => []
  | item :: items => item.withoutMoments :: itemsWithoutMoments items
termination_by structural items => items

def entriesWithoutMoments : List (String × Toml) → List (String × Toml)
  | [] => []
  | (key, value) :: entries => (key, value.withoutMoments) :: entriesWithoutMoments entries
termination_by structural entries => entries

end

end WalletPolicy.Toml
