import WalletPolicy.Toml.Basic

/-!
What the headers and keys of a TOML text add up to. A header may open an implied table once; a
dotted key may add to tables made by dotted keys only; no key is given twice.
-/
namespace WalletPolicy.Toml

inductive Origin where
  | header
  | implied
  | dotted
  deriving DecidableEq

inductive Entry where
  | value (value : Toml)
  | table (origin : Origin) (entries : List (String × Entry))
  | tables (elements : List (List (String × Entry)))

abbrev Entries := List (String × Entry)

namespace Entries

def put (entries : Entries) (key : String) (entry : Entry) : Entries :=
  match entries with
  | [] => [(key, entry)]
  | first :: rest => if first.1 = key then (key, entry) :: rest else first :: put rest key entry

/-- Change the table at a path below a table. Tables that are missing are made: by a dotted key if
`byKey`, else implied. A dotted key does not enter a table that has a header. -/
def modifyAt (byKey : Bool) (change : Origin → Entries → Option Entries) :
    Origin → List String → Entries → Option Entries
  | origin, [], entries => change origin entries
  | _, key :: path, entries =>
    match entries.lookup key with
    | none => do
      let origin := if byKey then Origin.dotted else .implied
      let inner ← modifyAt byKey change origin path []
      some (entries.put key (.table origin inner))
    | some (.value _) => none
    | some (.table origin inner) =>
      if byKey && origin == .header then none
      else do
        let inner ← modifyAt byKey change origin path inner
        some (entries.put key (.table origin inner))
    | some (.tables elements) =>
      match elements.getLast? with
      | none => none
      | some last => do
        let last ← modifyAt byKey change .header path last
        some (entries.put key (.tables (elements.dropLast ++ [last])))

def assign (origin : Origin) (path : List String) (key : String) (value : Toml)
    (entries : Entries) : Option Entries :=
  let set := fun (inner : Origin) (entries : Entries) =>
    if (inner == .dotted) == path.isEmpty then none
    else if (entries.lookup key).isSome then none
    else some (entries.put key (.value value))
  modifyAt true set origin path entries

def openTable (key : String) (entries : Entries) : Option Entries :=
  match entries.lookup key with
  | none => some (entries.put key (.table .header []))
  | some (.table .implied inner) =>
    some (entries.filter (fun entry => entry.1 != key) ++ [(key, .table .header inner)])
  | _ => none

def openElement (key : String) (entries : Entries) : Option Entries :=
  match entries.lookup key with
  | none => some (entries.put key (.tables [[]]))
  | some (.tables elements) => some (entries.put key (.tables (elements ++ [[]])))
  | _ => none

end Entries

/-! ## Finished tables -/

mutual

def Entry.finish : Entry → Toml
  | .value value => value
  | .table _ entries => .table (finishEntries entries)
  | .tables elements => .array (finishElements elements)
termination_by structural entry => entry

def finishEntries : List (String × Entry) → List (String × Toml)
  | [] => []
  | (key, entry) :: entries => (key, entry.finish) :: finishEntries entries
termination_by structural entries => entries

def finishElements : List (List (String × Entry)) → List Toml
  | [] => []
  | entries :: elements => .table (finishEntries entries) :: finishElements elements
termination_by structural elements => elements

end

/-! ## Documents -/

structure Document where
  root : Entries
  current : List String

namespace Document

def empty : Document := ⟨[], []⟩

def assign (document : Document) (path : List String) (key : String) (value : Toml) :
    Option Document := do
  let change := fun (origin : Origin) (entries : Entries) => entries.assign origin path key value
  let root ← document.root.modifyAt false change .header document.current
  some { document with root }

def enter (document : Document) (isRepeated : Bool) (path : List String) (key : String) :
    Option Document := do
  let change := fun (_ : Origin) (entries : Entries) =>
    if isRepeated then entries.openElement key else entries.openTable key
  let root ← document.root.modifyAt false change .header path
  some { root, current := path ++ [key] }

def finish (document : Document) : Toml := .table (finishEntries document.root)

end Document

end WalletPolicy.Toml
