import WalletPolicy.Proofs.Settings.Merging

namespace WalletPolicy

namespace Toml

variable {upper lower tree leaf : Toml} {entries upperEntries lowerEntries : List (String × Toml)}
  {key : String} {path above below : List String}

/-! ## Leaves -/

theorem leaf?_eq_some_iff :
    tree.leaf? path = some leaf ↔ tree.find? path = some leaf ∧ leaf.isTable = false := by
  unfold leaf?
  cases found : tree.find? path with
  | none => simp
  | some value =>
      cases value with
      | table =>
          refine iff_of_false (fun isLeaf => nomatch isLeaf) fun ⟨same, notTable⟩ => ?_
          rw [← Option.some.inj same] at notTable
          cases notTable
      | _ => exact (and_iff_left_of_imp fun same => Option.some.inj same ▸ rfl).symm

theorem find?_append : tree.find? (above ++ below) = (tree.find? above).bind (·.find? below) := by
  induction above generalizing tree with
  | nil => rfl
  | cons key above ih =>
      cases tree with
      | table entries =>
          rw [List.cons_append, find?_table_cons, find?_table_cons]
          cases entries.lookup key with
          | none => rfl
          | some child => exact ih
      | _ => rfl

def LeafAbove (tree : Toml) (path : List String) : Prop :=
  ∃ above below, path = above ++ below ∧ below ≠ [] ∧ (tree.leaf? above).isSome

theorem find?_of_leafAbove (blocked : tree.LeafAbove path) : tree.find? path = none := by
  obtain ⟨above, below, rfl, more, isLeaf⟩ := blocked
  obtain ⟨leaf, isLeaf⟩ := Option.isSome_iff_exists.1 isLeaf
  obtain ⟨found, notTable⟩ := leaf?_eq_some_iff.1 isLeaf
  obtain ⟨key, below, rfl⟩ := List.exists_cons_of_ne_nil more
  rw [find?_append, found, Option.bind_some]
  cases leaf with
  | table => cases notTable
  | _ => rfl

theorem leafAbove_table_cons : (Toml.table entries).LeafAbove (key :: path) ↔
    ∃ child, entries.lookup key = some child ∧ child.LeafAbove path := by
  constructor
  · rintro ⟨above, below, split, more, isLeaf⟩
    cases above with
    | nil => cases isLeaf
    | cons first above =>
        obtain ⟨rfl, rfl⟩ := List.cons.inj split
        rw [leaf?_table_cons] at isLeaf
        cases found : entries.lookup key with
        | none => rw [found] at isLeaf; cases isLeaf
        | some child =>
            rw [found] at isLeaf
            exact ⟨child, rfl, above, below, rfl, more, isLeaf⟩
  · rintro ⟨child, found, above, below, rfl, more, isLeaf⟩
    refine ⟨key :: above, below, rfl, more, ?_⟩
    rwa [leaf?_table_cons, found]

theorem leafAbove_iff : tree.LeafAbove path ↔ tree.opensTo path = false := by
  induction path generalizing tree with
  | nil =>
      refine iff_of_false ?_ nofun
      rintro ⟨above, below, split, more, -⟩
      exact more (List.append_eq_nil_iff.1 split.symm).2
  | cons key path ih =>
      cases tree with
      | table entries =>
          rw [leafAbove_table_cons, opensTo]
          cases entries.lookup key with
          | none => simp
          | some child => simpa using ih
      | _ => exact iff_of_true ⟨[], key :: path, rfl, List.cons_ne_nil _ _, rfl⟩ rfl

instance : Decidable (tree.LeafAbove path) := decidable_of_iff _ leafAbove_iff.symm

theorem opensTo_of_not_leafAbove (clear : ¬ tree.LeafAbove path) : tree.opensTo path = true :=
  Bool.of_not_eq_false (mt leafAbove_iff.2 clear)

theorem not_leafAbove_of_opensTo (isOpen : tree.opensTo path = true) : ¬ tree.LeafAbove path := by
  rw [leafAbove_iff, isOpen]
  exact nofun

/-! ## Leaves of a merged tree -/

theorem leaf_mergedOver (isLeaf : leaf.isTable = false) : leaf.mergedOver lower = leaf := by
  cases leaf with
  | table => cases isLeaf
  | _ => rfl

theorem isTable_mergedOver : (upper.mergedOver lower).isTable = upper.isTable := by
  cases upper with
  | table => cases lower <;> rfl
  | _ => rfl

theorem find?_mergedOver_of_find? {value : Toml} (found : upper.find? path = some value)
    (lower : Toml) :
    ∃ merged, (upper.mergedOver lower).find? path = some merged ∧ merged.isTable = value.isTable ∧
      (value.isTable = false → merged = value) := by
  have isOpen : upper.opensTo path = true :=
    opensTo_of_not_leafAbove fun blocked => by
      rw [find?_of_leafAbove blocked] at found
      cases found
  rw [find?_mergedOver isOpen, found]
  cases lower.find? path with
  | none => exact ⟨value, rfl, rfl, fun _ => rfl⟩
  | some lowerValue => exact ⟨_, rfl, isTable_mergedOver, leaf_mergedOver⟩

theorem leaf?_mergedOver_of_leaf (isLeaf : upper.leaf? path = some leaf) :
    (upper.mergedOver lower).leaf? path = some leaf := by
  obtain ⟨found, notTable⟩ := leaf?_eq_some_iff.1 isLeaf
  obtain ⟨merged, foundMerged, -, same⟩ := find?_mergedOver_of_find? found lower
  rw [same notTable] at foundMerged
  exact leaf?_eq_some_iff.2 ⟨foundMerged, notTable⟩

theorem leaf?_mergedOver_of_table (found : upper.find? path = some (.table entries)) :
    (upper.mergedOver lower).leaf? path = none := by
  obtain ⟨merged, foundMerged, isTable, -⟩ := find?_mergedOver_of_find? found lower
  rw [leaf?, foundMerged]
  cases merged with
  | table => rfl
  | _ => cases isTable

theorem leaf?_mergedOver_of_leafAbove (blocked : upper.LeafAbove path) :
    (upper.mergedOver lower).leaf? path = none := by
  obtain ⟨above, below, rfl, more, isLeaf⟩ := blocked
  obtain ⟨leaf, isLeaf⟩ := Option.isSome_iff_exists.1 isLeaf
  have merged : (upper.mergedOver lower).leaf? above = some leaf := leaf?_mergedOver_of_leaf isLeaf
  rw [leaf?, find?_of_leafAbove ⟨above, below, rfl, more, by rw [merged]; rfl⟩]

theorem leaf?_mergedOver_of_none (found : upper.find? path = none)
    (clear : ¬ upper.LeafAbove path) : (upper.mergedOver lower).leaf? path = lower.leaf? path := by
  rw [leaf?, find?_mergedOver (opensTo_of_not_leafAbove clear), found, Option.merge_none_left]
  rfl

/-! ## Merging again -/

theorem setKey_of_lookup {value : Toml} (found : entries.lookup key = some value) :
    setKey entries key value = entries := by
  induction entries with
  | nil => cases found
  | cons entry rest ih =>
      rw [setKey]
      rw [List.lookup_cons] at found
      by_cases same : entry.1 = key
      · subst same
        rw [beq_self_eq_true] at found
        rw [if_pos rfl, ← Option.some.inj found]
      · rw [beq_false_of_ne (Ne.symm same)] at found
        rw [if_neg same, ih found]

theorem entriesMergedOver_of_settled
    (settled : ∀ entry ∈ upperEntries, ∃ value, lowerEntries.lookup entry.1 = some value ∧
      entry.2.mergedOver value = value) :
    entriesMergedOver upperEntries lowerEntries = lowerEntries := by
  induction upperEntries with
  | nil => rfl
  | cons entry rest ih =>
      obtain ⟨⟨value, found, same⟩, later⟩ := List.forall_mem_cons.1 settled
      rw [entriesMergedOver, ih later]
      simp only [found, same]
      exact setKey_of_lookup found

theorem mergedOver_mergedOver (tidy : upper.Tidy) (lower : Toml) :
    upper.mergedOver (upper.mergedOver lower) = upper.mergedOver lower := by
  induction tidy generalizing lower with
  | leaf isLeaf => rw [leaf_mergedOver isLeaf, leaf_mergedOver isLeaf]
  | @table entries distinct each ih =>
      -- A value over itself is what it is: it is a value over a leaf, merged again.
      have alone (entry) (member : entry ∈ entries) : entry.2.mergedOver entry.2 = entry.2 := by
        have leafBelow : (Toml.boolean false).isTable = false := rfl
        have again := ih entry member (.boolean false)
        rwa [mergedOver_leaf leafBelow] at again
      cases lower with
      | table lowerEntries =>
          rw [mergedOver, mergedOver]
          refine congrArg Toml.table (entriesMergedOver_of_settled fun entry member => ?_)
          rw [lookup_entriesMergedOver, lookup_of_mem distinct member]
          cases lowerEntries.lookup entry.1 with
          | none => exact ⟨entry.2, rfl, alone entry member⟩
          | some lowerValue => exact ⟨_, rfl, ih entry member lowerValue⟩
      | _ =>
          refine congrArg Toml.table (entriesMergedOver_of_settled fun entry member => ?_)
          exact ⟨entry.2, lookup_of_mem distinct member, alone entry member⟩

end Toml

namespace LayeredTree

open Toml

/-- At every path the tree that is laid over another decides: its leaf stands, nothing stands as a
leaf where it has a table or below a leaf of it, and elsewhere the leaf is that of the lower tree.
To lay it over again, for whatever layer and place, changes nothing of the tree. An array is a leaf,
and stands as it is. -/
theorem leaves_of_overlay (layered : LayeredTree) (layer : Layer) (place : String) {upper : Toml}
    (tidy : upper.Tidy) :
    let merged := layered.overlay layer place upper
    (∀ path,
      (∀ leaf, upper.leaf? path = some leaf → merged.tree.leaf? path = some leaf) ∧
      ((∃ entries, upper.find? path = some (.table entries)) ∨ upper.LeafAbove path →
        merged.tree.leaf? path = none) ∧
      (upper.leaf? path = none → (¬ ∃ entries, upper.find? path = some (.table entries)) →
        ¬ upper.LeafAbove path → merged.tree.leaf? path = layered.tree.leaf? path)) ∧
    (∀ later elsewhere, (merged.overlay later elsewhere upper).tree = merged.tree) ∧
    ∀ path items, upper.find? path = some (.array items) →
      merged.tree.find? path = some (.array items) := by
  intro merged
  refine ⟨fun path => ⟨fun leaf => leaf?_mergedOver_of_leaf, ?closed, ?elsewhere⟩,
    fun _ _ => mergedOver_mergedOver tidy layered.tree, ?arrays⟩
  case closed =>
    rintro (⟨entries, found⟩ | blocked)
    · exact leaf?_mergedOver_of_table found
    · exact leaf?_mergedOver_of_leafAbove blocked
  case elsewhere =>
    intro noLeaf noTable clear
    refine leaf?_mergedOver_of_none ?_ clear
    cases found : upper.find? path with
    | none => rfl
    | some value =>
        cases isTable : value.isTable with
        | false => rw [leaf?_eq_some_iff.2 ⟨found, isTable⟩] at noLeaf; cases noLeaf
        | true =>
            cases value with
            | table entries => exact absurd ⟨entries, found⟩ noTable
            | _ => cases isTable
  case arrays =>
    intro path items found
    have isLeaf := leaf?_eq_some_iff.2 ⟨found, rfl⟩
    exact (leaf?_eq_some_iff.1 (leaf?_mergedOver_of_leaf isLeaf)).1

def conflictingTree : Toml :=
  .table [("wallet", .table [("frozen", .boolean true)]), ("policy", .integer 5),
    ("directives", .array [.text "debug"])]

theorem tidy_conflictingTree : conflictingTree.Tidy := by
  refine .table (by decide) fun entry member => ?_
  simp only [List.mem_cons, List.not_mem_nil, or_false] at member
  rcases member with rfl | rfl | rfl
  · refine .table (by decide) fun entry member => ?_
    rw [List.mem_singleton.1 member]
    exact .leaf rfl
  · exact .leaf rfl
  · exact .leaf rfl

theorem leaves_of_overlay_conflictingTree :
    let lower : Toml := .table [("policy", .table [("profile", .text "balanced")]),
      ("wallet", .integer 1), ("quote", .table [("timeout_ms", .integer 9)]),
      ("directives", .array [.text "info", .text "warn"])]
    let merged := (ofLayer .user "" lower).overlay .file "" conflictingTree
    merged.tree.leaf? ["wallet", "frozen"] = some (.boolean true) ∧
      merged.tree.leaf? ["wallet"] = none ∧
      merged.tree.leaf? ["policy", "profile"] = none ∧
      merged.tree.leaf? ["quote", "timeout_ms"] = some (.integer 9) ∧
      (merged.overlay .environment "policy" conflictingTree).tree = merged.tree ∧
      merged.tree.find? ["directives"] = some (.array [.text "debug"]) := by
  intro lower merged
  obtain ⟨atPath, again, arrays⟩ :=
    leaves_of_overlay (ofLayer .user "" lower) .file "" tidy_conflictingTree
  refine ⟨(atPath ["wallet", "frozen"]).1 _ rfl, (atPath ["wallet"]).2.1 (.inl ⟨_, rfl⟩),
    (atPath ["policy", "profile"]).2.1 (.inr (by decide)), ?elsewhere, again _ _, arrays _ _ rfl⟩
  case elsewhere =>
    exact (atPath ["quote", "timeout_ms"]).2.2 rfl (fun ⟨_, found⟩ => nomatch found) (by decide)

end LayeredTree

end WalletPolicy
