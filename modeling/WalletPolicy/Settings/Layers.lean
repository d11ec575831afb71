import WalletPolicy.Toml.Basic

/-!
Trees that are laid over one another, and a record of which layer each value comes from. Tables are
merged key by key; anything else replaces what is below it.
-/
namespace WalletPolicy

inductive Layer where
  | defaults
  | user
  | file
  | environment
  deriving DecidableEq

namespace Layer

def name : Layer → String
  | .defaults => "defaults"
  | .user => "user"
  | .file => "file"
  | .environment => "environment"

def ofName? (name : String) : Option Layer :=
  [defaults, user, file, environment].find? fun layer => layer.name = name

end Layer

def dottedPlace (place key : String) : String := if place.isEmpty then key else s!"{place}.{key}"

/-! ## Provenance -/

structure Provenance where
  entries : List (String × Layer)
  deriving DecidableEq

namespace Provenance

def empty : Provenance := ⟨[]⟩

def source? (provenance : Provenance) (place : String) : Option Layer :=
  provenance.entries.lookup place

def note (provenance : Provenance) (layer : Layer) (place : String) : Provenance :=
  ⟨(place, layer) :: provenance.entries.filter fun entry => entry.1 != place⟩

theorem lookup_filter_ne {α : Type} (entries : List (String × α)) (place other : String)
    (h : other ≠ place) :
    (entries.filter fun entry => entry.1 != place).lookup other = entries.lookup other := by
  induction entries with
  | nil => rfl
  | cons entry rest ih =>
    rw [List.filter_cons, List.lookup_cons]
    split
    · rw [List.lookup_cons, ih]
    · rename_i dropped
      have same : entry.1 = place := by simpa using dropped
      have differs : (other == entry.1) = false := by simpa [same] using h
      rw [ih, differs]

theorem source?_note (provenance : Provenance) (layer : Layer) (place other : String) :
    (provenance.note layer place).source? other =
      if other = place then some layer else provenance.source? other := by
  unfold note source?
  rw [List.lookup_cons]
  by_cases h : other = place
  · simp [h]
  · have differs : (other == place) = false := by simpa using h
    rw [differs, if_neg h, lookup_filter_ne provenance.entries place other h]

def noteAll (provenance : Provenance) (layer : Layer) (places : List String) : Provenance :=
  places.foldl (fun provenance place => provenance.note layer place) provenance

end Provenance

/-! ## Trees over trees -/

namespace Toml

mutual

def leafPlaces (place : String) (tree : Toml) : List String :=
  match tree with
  | .table entries => entriesLeafPlaces place entries
  | _ => [place]
termination_by structural tree

def entriesLeafPlaces (place : String) (entries : List (String × Toml)) : List String :=
  match entries with
  | [] => []
  | (key, value) :: entries =>
    value.leafPlaces (dottedPlace place key) ++ entriesLeafPlaces place entries
termination_by structural entries

end

mutual

def mergedOver (upper : Toml) (lower : Toml) : Toml :=
  match upper with
  | .table entries =>
    match lower with
    | .table lowerEntries => .table (entriesMergedOver entries lowerEntries)
    | _ => .table entries
  | leaf => leaf
termination_by structural upper

def entriesMergedOver (upper : List (String × Toml)) (lower : List (String × Toml)) :
    List (String × Toml) :=
  match upper with
  | [] => lower
  | (key, value) :: upper =>
    let merged :=
      match lower.lookup key with
      | some lowerValue => value.mergedOver lowerValue
      | none => value
    setKey (entriesMergedOver upper lower) key merged
termination_by structural upper

end

mutual

/-- The places at which a tree writes when it is laid over another at `place`. A new key writes its
leaves; a table over a leaf writes at the place of that leaf alone. -/
def writtenPlaces (place : String) (upper : Toml) (lower : Toml) : List String :=
  match upper with
  | .table entries =>
    match lower with
    | .table lowerEntries => entriesWrittenPlaces place entries lowerEntries
    | _ => [place]
  | _ => [place]
termination_by structural upper

def entriesWrittenPlaces (place : String) (upper : List (String × Toml))
    (lower : List (String × Toml)) : List String :=
  match upper with
  | [] => []
  | (key, value) :: upper =>
    let written :=
      match lower.lookup key with
      | some lowerValue => value.writtenPlaces (dottedPlace place key) lowerValue
      | none => value.leafPlaces (dottedPlace place key)
    written ++ entriesWrittenPlaces place upper lower
termination_by structural upper

end

end Toml

structure LayeredTree where
  tree : Toml
  sources : Provenance

namespace LayeredTree

def ofLayer (layer : Layer) (place : String) (tree : Toml) : LayeredTree :=
  ⟨tree, .noteAll .empty layer (tree.leafPlaces place)⟩

def overlay (layered : LayeredTree) (layer : Layer) (place : String) (upper : Toml) :
    LayeredTree where
  tree := upper.mergedOver layered.tree
  sources := layered.sources.noteAll layer (upper.writtenPlaces place layered.tree)

end LayeredTree

end WalletPolicy
