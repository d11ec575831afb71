import WalletPolicy.Json.Basic
import WalletPolicy.Time.Moment

namespace WalletPolicy

/-- A TOML value. A key occurs at most once in a table. Floating-point numbers are kept as they are
written, because no setting is one. -/
inductive Toml where
  | text (value : String)
  | integer (value : Int)
  | decimal (written : String)
  | boolean (value : Bool)
  | moment (value : Moment)
  | array (items : List Toml)
  | table (entries : List (String × Toml))
  deriving Inhabited

namespace Toml

def isTable : Toml → Bool
  | .table _ => true
  | _ => false

def find? (tree : Toml) : List String → Option Toml
  | [] => some tree
  | key :: path =>
    match tree with
    | .table entries =>
      match entries.lookup key with
      | some child => child.find? path
      | none => none
    | _ => none

def leaf? (tree : Toml) (path : List String) : Option Toml :=
  match tree.find? path with
  | some (.table _) => none
  | some leaf => some leaf
  | none => none

def setKey (entries : List (String × Toml)) (key : String) (value : Toml) :
    List (String × Toml) :=
  match entries with
  | [] => [(key, value)]
  | entry :: rest =>
    if entry.1 = key then (key, value) :: rest else entry :: setKey rest key value

theorem lookup_setKey (entries : List (String × Toml)) (key : String) (value : Toml)
    (other : String) : (setKey entries key value).lookup other =
      if other = key then some value else entries.lookup other := by
  induction entries with
  | nil =>
    rw [setKey, List.lookup_cons]
    split <;> simp_all
  | cons entry rest ih =>
    rw [setKey]
    by_cases h : entry.1 = key
    · rw [if_pos h, List.lookup_cons, List.lookup_cons]
      by_cases same : other = key
      · simp [same]
      · have differs : (other == key) = false := by simpa using same
        simp [same, h, differs]
    · rw [if_neg h, List.lookup_cons, List.lookup_cons, ih]
      by_cases same : other = entry.1
      · simp [same, h]
      · have differs : (other == entry.1) = false := by simpa using same
        simp [differs]

mutual

def toJson : Toml → Json
  | .text value => .text value
  | .integer value => .integer value
  | .decimal _ => .decimal 0 1
  | .boolean value => .bool value
  | .moment value => .text value.toText
  | .array items => .list (itemsToJson items)
  | .table entries => .object (entriesToJson entries)
termination_by structural tree => tree

def itemsToJson : List Toml → List Json
  | [] => []
  | item :: items => item.toJson :: itemsToJson items
termination_by structural items => items

def entriesToJson : List (String × Toml) → List (String × Json)
  | [] => []
  | (key, value) :: entries => (key, value.toJson) :: entriesToJson entries
termination_by structural entries => entries

end

def boundedInteger (n : Int) : Option Toml :=
  if Int64.minValue.toInt ≤ n ∧ n ≤ Int64.maxValue.toInt then some (.integer n) else none

mutual

def ofJson? : Json → Option Toml
  | .text value => some (.text value)
  | .integer value => boundedInteger value
  | .bool value => some (.boolean value)
  | .list items => (itemsOfJson? items).map .array
  | .object members => (entriesOfJson? members).map .table
  | .decimal .. => none
  | .null => none
termination_by structural json => json

def itemsOfJson? : List Json → Option (List Toml)
  | [] => some []
  | item :: items => do
    let item ← ofJson? item
    let items ← itemsOfJson? items
    some (item :: items)
termination_by structural items => items

def entriesOfJson? : List (String × Json) → Option (List (String × Toml))
  | [] => some []
  | (key, value) :: members => do
    let value ← ofJson? value
    let entries ← entriesOfJson? members
    some ((key, value) :: entries)
termination_by structural members => members

end

end Toml

end WalletPolicy
