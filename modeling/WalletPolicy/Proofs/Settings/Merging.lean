import Mathlib.Data.Option.Basic
import WalletPolicy.Proofs.Toml.Keys

namespace WalletPolicy

namespace Toml

variable {upper lower tree : Toml} {entries upperEntries lowerEntries : List (String × Toml)}
  {key : String} {path : List String} {place : String}

/-! ## Paths -/

def opensTo (tree : Toml) : List String → Bool
  | [] => true
  | key :: path =>
    match tree with
    | .table entries =>
      match entries.lookup key with
      | some child => child.opensTo path
      | none => true
    | _ => false

mutual

def paths (tree : Toml) : List (List String) :=
  match tree with
  | .table entries => [] :: entriesPaths entries
  | _ => [[]]
termination_by structural tree

def entriesPaths (entries : List (String × Toml)) : List (List String) :=
  match entries with
  | [] => []
  | (key, value) :: entries => value.paths.map (key :: ·) ++ entriesPaths entries
termination_by structural entries

end

theorem find?_table_cons :
    (Toml.table entries).find? (key :: path) = (entries.lookup key).bind (·.find? path) := by
  rw [find?]
  cases entries.lookup key <;> rfl

theorem mem_entriesPaths {child : Toml} (member : (key, child) ∈ entries)
    (below : path ∈ child.paths) : key :: path ∈ entriesPaths entries := by
  induction entries with
  | nil => cases member
  | cons entry rest ih =>
      rw [entriesPaths]
      cases member with
      | head => exact List.mem_append_left _ (List.mem_map_of_mem below)
      | tail _ later => exact List.mem_append_right _ (ih later)

theorem mem_paths_of_find? (found : (tree.find? path).isSome) : path ∈ tree.paths := by
  induction path generalizing tree with
  | nil => cases tree <;> simp [paths]
  | cons key path ih =>
      cases tree with
      | table entries =>
          rw [find?_table_cons] at found
          cases known : entries.lookup key with
          | none => rw [known] at found; cases found
          | some child =>
              rw [known] at found
              exact List.mem_cons_of_mem _ (mem_entriesPaths (mem_of_lookup known) (ih found))
      | _ => cases found

/-! ## Merging -/

theorem mergedOver_leaf (isLeaf : lower.isTable = false) : upper.mergedOver lower = upper := by
  cases upper with
  | table =>
      cases lower with
      | table => cases isLeaf
      | _ => rfl
  | _ => rfl

theorem lookup_entriesMergedOver :
    (entriesMergedOver upperEntries lowerEntries).lookup key =
      Option.merge mergedOver (upperEntries.lookup key) (lowerEntries.lookup key) := by
  induction upperEntries with
  | nil =>
      rw [entriesMergedOver]
      cases lowerEntries.lookup key <;> rfl
  | cons entry rest ih =>
      rw [entriesMergedOver, lookup_setKey, List.lookup_cons]
      by_cases same : key = entry.1
      · subst same
        rw [if_pos rfl, beq_self_eq_true]
        cases lowerEntries.lookup entry.1 <;> rfl
      · have differs : (key == entry.1) = false := by simpa using same
        rw [if_neg same, ih, differs]

theorem opensTo_of_lookup {child : Toml} (isOpen : (Toml.table entries).opensTo (key :: path))
    (found : entries.lookup key = some child) : child.opensTo path := by
  rw [opensTo, found] at isOpen
  exact isOpen

theorem find?_mergedOver (isOpen : upper.opensTo path) :
    (upper.mergedOver lower).find? path =
      Option.merge mergedOver (upper.find? path) (lower.find? path) := by
  induction path generalizing upper lower with
  | nil => rfl
  | cons key path ih =>
      cases upper with
      | table upperEntries =>
          cases lower with
          | table lowerEntries =>
              rw [mergedOver, find?_table_cons, find?_table_cons, find?_table_cons,
                lookup_entriesMergedOver]
              cases above : upperEntries.lookup key with
              | none => cases lowerEntries.lookup key <;> simp
              | some child =>
                  cases lowerEntries.lookup key with
                  | none => simp
                  | some lowerChild => exact ih (opensTo_of_lookup isOpen above)
          | _ => exact (Option.merge_none_right ..).symm
      | _ => cases isOpen

theorem opensTo_mergedOver (upperOpen : upper.opensTo path) (lowerOpen : lower.opensTo path) :
    (upper.mergedOver lower).opensTo path := by
  induction path generalizing upper lower with
  | nil => rfl
  | cons key path ih =>
      cases upper with
      | table upperEntries =>
          cases lower with
          | table lowerEntries =>
              rw [mergedOver, opensTo, lookup_entriesMergedOver]
              cases above : upperEntries.lookup key with
              | none =>
                  cases below : lowerEntries.lookup key with
                  | none => rfl
                  | some lowerChild => exact opensTo_of_lookup lowerOpen below
              | some child =>
                  have childOpen := opensTo_of_lookup upperOpen above
                  cases below : lowerEntries.lookup key with
                  | none => exact childOpen
                  | some lowerChild => exact ih childOpen (opensTo_of_lookup lowerOpen below)
          | _ => cases lowerOpen
      | _ => cases upperOpen

/-! ## Values that are put at a path -/

theorem opensTo_child (isOpen : (Toml.table entries).opensTo (key :: path)) :
    ((entries.lookup key).getD (.table [])).opensTo path := by
  cases found : entries.lookup key with
  | none => cases path <;> rfl
  | some child => exact opensTo_of_lookup isOpen found

theorem find?_put {value : Toml} (isOpen : tree.opensTo path) :
    (tree.put path value).find? path = some value := by
  induction path generalizing tree with
  | nil => rfl
  | cons key path ih =>
      cases tree with
      | table entries =>
          rw [put, find?_table_cons, lookup_setKey, if_pos rfl]
          exact ih (opensTo_child isOpen)
      | _ => cases isOpen

theorem find?_put_apart {value : Toml} {other : List String} (notBelow : ¬ path <+: other)
    (notAbove : ¬ other <+: path) : (tree.put path value).find? other = tree.find? other := by
  induction path generalizing tree other with
  | nil => exact absurd List.nil_prefix notBelow
  | cons key path ih =>
      cases other with
      | nil => exact absurd List.nil_prefix notAbove
      | cons otherKey other =>
          cases tree with
          | table entries =>
              rw [put, find?_table_cons, find?_table_cons, lookup_setKey]
              split
              · rename_i same
                subst same
                rw [List.cons_prefix_cons, not_and] at notBelow notAbove
                rw [Option.bind_some, ih (notBelow rfl) (notAbove rfl)]
                cases entries.lookup otherKey with
                | some child => rfl
                | none =>
                    cases other with
                    | nil => exact absurd List.nil_prefix (notAbove rfl)
                    | cons => rfl
              · rfl
          | _ => rfl

theorem find?_put_of_ne {value : Toml} {other : List String}
    (sameLength : other.length = path.length) (differs : other ≠ path) :
    (tree.put path value).find? other = tree.find? other :=
  find?_put_apart (fun below => differs (below.eq_of_length sameLength.symm).symm)
    fun above => differs (above.eq_of_length sameLength)

theorem opensTo_put {value : Toml} {other : List String} (sameLength : other.length = path.length)
    (isOpen : tree.opensTo other) : (tree.put path value).opensTo other := by
  induction path generalizing tree other with
  | nil => rw [List.eq_nil_of_length_eq_zero sameLength]; rfl
  | cons key path ih =>
      cases other with
      | nil => cases sameLength
      | cons otherKey other =>
          cases tree with
          | table entries =>
              rw [put, opensTo, lookup_setKey]
              by_cases same : otherKey = key
              · subst same
                rw [if_pos rfl]
                exact ih (Nat.succ.inj sameLength) (opensTo_child isOpen)
              · rw [if_neg same]
                exact isOpen
          | _ => cases isOpen

/-! ## Places -/

theorem leaf?_table_cons :
    (Toml.table entries).leaf? (key :: path) = (entries.lookup key).bind (·.leaf? path) := by
  rw [leaf?, find?_table_cons]
  cases entries.lookup key <;> rfl

theorem isSome_find?_of_leaf? (isLeaf : (tree.leaf? path).isSome) :
    (tree.find? path).isSome := by
  unfold leaf? at isLeaf
  cases found : tree.find? path with
  | none => rw [found] at isLeaf; cases isLeaf
  | some => rfl

theorem entriesLeafPlaces_eq_flatMap :
    entriesLeafPlaces place entries =
      entries.flatMap fun entry => entry.2.leafPlaces (dottedPlace place entry.1) := by
  induction entries with
  | nil => rfl
  | cons entry rest ih => rw [entriesLeafPlaces, ih, List.flatMap_cons]

def entryWrittenPlaces (place : String) (lowerEntries : List (String × Toml))
    (entry : String × Toml) : List String :=
  match lowerEntries.lookup entry.1 with
  | some lower => entry.2.writtenPlaces (dottedPlace place entry.1) lower
  | none => entry.2.leafPlaces (dottedPlace place entry.1)

theorem entriesWrittenPlaces_eq_flatMap :
    entriesWrittenPlaces place upperEntries lowerEntries =
      upperEntries.flatMap (entryWrittenPlaces place lowerEntries) := by
  induction upperEntries with
  | nil => rfl
  | cons entry rest ih => exact congrArg (entryWrittenPlaces place lowerEntries entry ++ ·) ih

theorem mem_leafPlaces (isLeaf : (tree.leaf? path).isSome) :
    path.foldl dottedPlace place ∈ tree.leafPlaces place := by
  induction path generalizing tree place with
  | nil =>
      cases tree with
      | table => cases isLeaf
      | _ => exact List.mem_singleton_self _
  | cons key path ih =>
      cases tree with
      | table entries =>
          rw [leaf?_table_cons] at isLeaf
          cases found : entries.lookup key with
          | none => rw [found] at isLeaf; cases isLeaf
          | some child =>
              rw [found] at isLeaf
              rw [leafPlaces, entriesLeafPlaces_eq_flatMap]
              exact List.mem_flatMap.2 ⟨(key, child), mem_of_lookup found, ih isLeaf⟩
      | _ => cases isLeaf

theorem exists_of_mem_leafPlaces (tidy : tree.Tidy) {spelled : String}
    (member : spelled ∈ tree.leafPlaces place) :
    ∃ path, path.foldl dottedPlace place = spelled ∧ (tree.leaf? path).isSome := by
  induction tidy generalizing place with
  | @leaf tree isLeaf =>
      cases tree with
      | table => cases isLeaf
      | _ => exact ⟨[], (List.mem_singleton.1 member).symm, rfl⟩
  | table distinct each ih =>
      rw [leafPlaces, entriesLeafPlaces_eq_flatMap] at member
      obtain ⟨entry, known, below⟩ := List.mem_flatMap.1 member
      obtain ⟨path, spells, isLeaf⟩ := ih entry known below
      refine ⟨entry.1 :: path, spells, ?_⟩
      rw [leaf?_table_cons, lookup_of_mem distinct known]
      exact isLeaf

def writesAt (upper lower : Toml) (path : List String) : Bool :=
  (upper.find? path).isSome && ((upper.leaf? path).isSome || (lower.leaf? path).isSome)

theorem mem_writtenPlaces (isOpen : lower.opensTo path) (writes : upper.writesAt lower path) :
    path.foldl dottedPlace place ∈ upper.writtenPlaces place lower := by
  induction path generalizing upper lower place with
  | nil =>
      cases upper with
      | table =>
          cases lower with
          | table => cases writes
          | _ => exact List.mem_singleton_self _
      | _ => exact List.mem_singleton_self _
  | cons key path ih =>
      cases upper with
      | table upperEntries =>
          cases lower with
          | table lowerEntries =>
              rw [writesAt, find?_table_cons, leaf?_table_cons, leaf?_table_cons] at writes
              cases above : upperEntries.lookup key with
              | none => rw [above] at writes; cases writes
              | some child =>
                  rw [above] at writes
                  rw [writtenPlaces, entriesWrittenPlaces_eq_flatMap]
                  refine List.mem_flatMap.2 ⟨(key, child), mem_of_lookup above, ?_⟩
                  rw [entryWrittenPlaces]
                  -- A key that is new below writes its leaves, and a leaf can only be the upper one.
                  cases below : lowerEntries.lookup key with
                  | none =>
                      rw [below] at writes
                      have isLeaf : (child.leaf? path).isSome := by simp_all
                      exact mem_leafPlaces isLeaf
                  | some lowerChild =>
                      rw [below] at writes
                      exact ih (opensTo_of_lookup isOpen below) writes
          | _ => cases isOpen
      | _ => cases writes

theorem exists_of_mem_writtenPlaces (tidy : upper.Tidy) {spelled : String}
    (member : spelled ∈ upper.writtenPlaces place lower) :
    ∃ path, path.foldl dottedPlace place = spelled ∧ upper.writesAt lower path := by
  induction tidy generalizing lower place with
  | @leaf upper isLeaf =>
      cases upper with
      | table => cases isLeaf
      | _ => exact ⟨[], (List.mem_singleton.1 member).symm, rfl⟩
  | table distinct each ih =>
      cases lower with
      | table lowerEntries =>
          rw [writtenPlaces, entriesWrittenPlaces_eq_flatMap] at member
          obtain ⟨entry, known, below⟩ := List.mem_flatMap.1 member
          rw [entryWrittenPlaces] at below
          have found := lookup_of_mem distinct known
          cases beneath : lowerEntries.lookup entry.1 with
          | none =>
              rw [beneath] at below
              obtain ⟨path, spells, isLeaf⟩ := exists_of_mem_leafPlaces (each entry known) below
              refine ⟨entry.1 :: path, spells, ?_⟩
              rw [writesAt, find?_table_cons, leaf?_table_cons, found]
              simp [isLeaf, isSome_find?_of_leaf? isLeaf]
          | some lowerChild =>
              rw [beneath] at below
              obtain ⟨path, spells, writes⟩ := ih entry known below
              refine ⟨entry.1 :: path, spells, ?_⟩
              rw [writesAt, find?_table_cons, leaf?_table_cons, leaf?_table_cons, found, beneath]
              exact writes
      | _ => exact ⟨[], (List.mem_singleton.1 member).symm, rfl⟩

theorem mem_writtenPlaces_iff (tidy : upper.Tidy) (isOpen : lower.opensTo path)
    (isUnique : ∀ other ∈ upper.paths,
      other.foldl dottedPlace place = path.foldl dottedPlace place → other = path) :
    path.foldl dottedPlace place ∈ upper.writtenPlaces place lower ↔
      upper.writesAt lower path := by
  constructor
  · intro member
    obtain ⟨other, spells, writes⟩ := exists_of_mem_writtenPlaces tidy member
    have present : (upper.find? other).isSome := (Bool.and_eq_true_iff.1 writes).1
    exact isUnique other (mem_paths_of_find? present) spells ▸ writes
  · exact mem_writtenPlaces isOpen

end Toml

namespace Provenance

variable {provenance : Provenance} {layer : Layer} {places : List String} {place : String}

theorem source?_noteAll :
    (provenance.noteAll layer places).source? place =
      if place ∈ places then some layer else provenance.source? place := by
  unfold noteAll
  induction places generalizing provenance with
  | nil => simp
  | cons first rest ih =>
      rw [List.foldl_cons, ih, source?_note]
      by_cases later : place ∈ rest
      · simp [later]
      · simp [later]

theorem isSettled_iff : provenance.isSettled place ↔
    ∃ layer, provenance.source? place = some layer ∧ layer ≠ .defaults := by
  unfold isSettled
  split <;> simp_all

theorem isSettled_eq_false_iff : provenance.isSettled place = false ↔
    ∀ layer, provenance.source? place = some layer → layer = .defaults := by
  rw [← Bool.not_eq_true, isSettled_iff]
  simp only [not_exists, not_and, not_not]

end Provenance

end WalletPolicy
