import WalletPolicy.Proofs.Settings.Leaves

/-!
# Where every leaf comes from

Leaves stand at paths, and the record of layers is kept by places, in which a dot joins the keys. A
place spells only one path where keys are not empty and have no dot (`Toml.dotted_injective`), and
no leaf is lost where the trees agree on what is a table.
-/

namespace WalletPolicy

namespace Toml

variable {upper lower tree : Toml} {path other : List String} {place key : String}

/-! ## Places -/

def dotted (path : List String) : String := ".".intercalate path

def IsPlainKey (key : String) : Prop := key ≠ "" ∧ '.' ∉ key.toList

instance : Decidable (IsPlainKey key) := inferInstanceAs (Decidable (_ ∧ _))

theorem dotted_joined (first key : String) (path : List String) :
    dotted ((first ++ "." ++ key) :: path) = dotted (first :: key :: path) := by
  unfold dotted
  rw [String.intercalate_cons_cons]
  cases path with
  | nil => rw [String.intercalate_singleton, String.intercalate_singleton]
  | cons next path =>
      rw [String.intercalate_cons_cons, String.intercalate_cons_cons]
      simp only [String.append_assoc]

theorem foldl_dottedPlace_of_ne (start : place ≠ "") :
    path.foldl dottedPlace place = dotted (place :: path) := by
  induction path generalizing place with
  | nil => exact String.intercalate_singleton.symm
  | cons key path ih =>
      have joined : dottedPlace place key = place ++ "." ++ key := by
        rw [dottedPlace, if_neg (by simpa using start)]
        rfl
      have longer : dottedPlace place key ≠ "" := by
        rw [joined]
        simp
      rw [List.foldl_cons, ih longer, joined, dotted_joined]

theorem foldl_dottedPlace (plain : ∀ key ∈ path, IsPlainKey key) :
    path.foldl dottedPlace "" = dotted path := by
  cases path with
  | nil => rfl
  | cons key path => exact foldl_dottedPlace_of_ne (plain key List.mem_cons_self).1

theorem splitOn_dotted (plain : ∀ key ∈ path, IsPlainKey key) (more : path ≠ []) :
    (dotted path).toList.splitOn '.' = path.map String.toList := by
  rw [dotted, String.toList_intercalate]
  refine List.splitOn_intercalate '.' (fun word member => ?_) (by simpa using more)
  obtain ⟨key, isKey, rfl⟩ := List.mem_map.1 member
  exact (plain key isKey).2

theorem dotted_ne_empty (plain : ∀ key ∈ path, IsPlainKey key) (more : path ≠ []) :
    dotted path ≠ "" := by
  intro empty
  have words := splitOn_dotted plain more
  rw [empty] at words
  have blank : "" ∈ path := by
    have member : "".toList ∈ path.map String.toList := by
      rw [← words]
      exact List.mem_singleton_self _
    obtain ⟨key, isKey, same⟩ := List.mem_map.1 member
    exact String.toList_inj.1 same ▸ isKey
  exact (plain "" blank).1 rfl

theorem dotted_injective (plain : ∀ key ∈ path, IsPlainKey key)
    (otherPlain : ∀ key ∈ other, IsPlainKey key) (same : dotted path = dotted other) :
    path = other := by
  by_cases more : path = []
  · by_contra differs
    have otherMore : other ≠ [] := fun empty => differs (more.trans empty.symm)
    exact dotted_ne_empty otherPlain otherMore (by rw [← same, more]; rfl)
  · by_cases otherMore : other = []
    · exact absurd (by rw [same, otherMore]; rfl) (dotted_ne_empty plain more)
    · -- Split at its dots, a place gives the keys back.
      have words : path.map String.toList = other.map String.toList := by
        rw [← splitOn_dotted plain more, same, splitOn_dotted otherPlain otherMore]
      exact (List.map_inj_right fun _ _ => String.toList_inj.1).1 words

/-! ## Trees of one shape -/

def shape? (tree : Toml) (path : List String) : Option Bool := (tree.find? path).map isTable

def Agrees (tree other : Toml) : Prop :=
  ∀ path isTable otherIsTable, tree.shape? path = some isTable →
    other.shape? path = some otherIsTable → isTable = otherIsTable

theorem isSome_leaf?_iff : (tree.leaf? path).isSome ↔ tree.shape? path = some false := by
  simp only [Option.isSome_iff_exists, leaf?_eq_some_iff, shape?, Option.map_eq_some_iff]

theorem mem_paths_of_shape? {isTable : Bool} (stands : tree.shape? path = some isTable) :
    path ∈ tree.paths := by
  obtain ⟨value, found, -⟩ := Option.map_eq_some_iff.1 stands
  exact mem_paths_of_find? (by rw [found]; rfl)

instance {other : Toml} : Decidable (tree.Agrees other) :=
  decidable_of_iff
    (∀ path ∈ tree.paths, ∀ isTable ∈ tree.shape? path, ∀ otherIsTable ∈ other.shape? path,
      isTable = otherIsTable)
    ⟨fun agrees path _ _ stands otherStands =>
        agrees path (mem_paths_of_shape? stands) _ stands _ otherStands,
      fun agrees path _ _ stands _ otherStands => agrees path _ _ stands otherStands⟩

theorem shape?_above {above below : List String} {isTable : Bool}
    (stands : tree.shape? (above ++ below) = some isTable) (more : below ≠ []) :
    tree.shape? above = some true := by
  obtain ⟨value, found, -⟩ := Option.map_eq_some_iff.1 stands
  rw [find?_append] at found
  obtain ⟨table, foundAbove, foundBelow⟩ := Option.bind_eq_some_iff.1 found
  obtain ⟨key, below, rfl⟩ := List.exists_cons_of_ne_nil more
  cases table with
  | table entries => exact Option.map_eq_some_iff.2 ⟨_, foundAbove, rfl⟩
  | _ => cases foundBelow

theorem Agrees.symm (agrees : upper.Agrees lower) : lower.Agrees upper :=
  fun path _ _ stands otherStands => (agrees path _ _ otherStands stands).symm

theorem Agrees.opensTo {isTable : Bool} (agrees : upper.Agrees lower)
    (stands : lower.shape? path = some isTable) : upper.opensTo path := by
  refine opensTo_of_not_leafAbove ?_
  rintro ⟨above, below, rfl, more, isLeaf⟩
  have different := agrees above _ _ (isSome_leaf?_iff.1 isLeaf) (shape?_above stands more)
  cases different

theorem LeafAbove.mergedOver (blocked : upper.LeafAbove path) (lower : Toml) :
    (upper.mergedOver lower).LeafAbove path := by
  obtain ⟨above, below, split, more, isLeaf⟩ := blocked
  obtain ⟨leaf, isLeaf⟩ := Option.isSome_iff_exists.1 isLeaf
  exact ⟨above, below, split, more, by rw [leaf?_mergedOver_of_leaf isLeaf]; rfl⟩

theorem shape?_mergedOver (agrees : upper.Agrees lower) :
    (upper.mergedOver lower).shape? path = (upper.shape? path <|> lower.shape? path) := by
  by_cases blocked : upper.LeafAbove path
  · -- The lower tree has nothing there either, or it would have a table where the leaf is.
    have nothing : lower.shape? path = none := by
      rw [Option.eq_none_iff_forall_ne_some]
      intro isTable stands
      exact not_leafAbove_of_opensTo (agrees.opensTo stands) blocked
    rw [nothing, shape?, shape?, find?_of_leafAbove blocked,
      find?_of_leafAbove (blocked.mergedOver lower)]
    rfl
  · rw [shape?, shape?, shape?, find?_mergedOver (opensTo_of_not_leafAbove blocked)]
    cases upper.find? path with
    | none => rw [Option.merge_none_left]; rfl
    | some value =>
        cases lower.find? path with
        | none => rfl
        | some lowerValue => exact congrArg some isTable_mergedOver

theorem mem_leafPlaces_iff (tidy : tree.Tidy) :
    place ∈ tree.leafPlaces "" ↔
      ∃ path, path.foldl dottedPlace "" = place ∧ (tree.leaf? path).isSome := by
  constructor
  · exact exists_of_mem_leafPlaces tidy
  · rintro ⟨path, rfl, isLeaf⟩
    exact mem_leafPlaces isLeaf

theorem mem_writtenPlaces_iff_of_agrees (tidy : upper.Tidy) (agrees : upper.Agrees lower) :
    place ∈ upper.writtenPlaces "" lower ↔
      ∃ path, path.foldl dottedPlace "" = place ∧ (upper.leaf? path).isSome := by
  constructor
  · intro member
    obtain ⟨path, spells, writes⟩ := exists_of_mem_writtenPlaces tidy member
    obtain ⟨present, isLeaf⟩ := Bool.and_eq_true_iff.1 writes
    refine ⟨path, spells, ?_⟩
    cases Bool.or_eq_true_iff.1 isLeaf with
    | inl isLeaf => exact isLeaf
    | inr lowerLeaf =>
        -- Whatever stands there is a leaf, as it is one in the lower tree.
        obtain ⟨value, found⟩ := Option.isSome_iff_exists.1 present
        have stands : upper.shape? path = some value.isTable := by rw [shape?, found]; rfl
        rw [isSome_leaf?_iff, stands, agrees path _ _ stands (isSome_leaf?_iff.1 lowerLeaf)]
  · rintro ⟨path, rfl, isLeaf⟩
    refine mem_writtenPlaces (agrees.symm.opensTo (isSome_leaf?_iff.1 isLeaf)) ?_
    rw [writesAt, isSome_find?_of_leaf? isLeaf, isLeaf]
    rfl

end Toml

open Toml

/-! ## Layers -/

structure Contribution where
  layer : Layer
  tree : Toml

/-- Trees whose keys are plain, and of which no two have a table and a leaf at one path. -/
structure Compatible (trees : List Contribution) : Prop where
  tidy : ∀ given ∈ trees, given.tree.Tidy
  plain : ∀ given ∈ trees, ∀ path ∈ given.tree.paths, ∀ key ∈ path, IsPlainKey key
  agree : ∀ given ∈ trees, ∀ other ∈ trees, given.tree.Agrees other.tree

def lastLayer? (trees : List Contribution) (path : List String) : Option Layer :=
  (trees.reverse.find? fun given => (given.tree.leaf? path).isSome).map Contribution.layer

section

variable {trees : List Contribution} {given : Contribution} {path : List String} {layer : Layer}

theorem lastLayer?_snoc :
    lastLayer? (trees ++ [given]) path =
      if (given.tree.leaf? path).isSome then some given.layer else lastLayer? trees path := by
  rw [lastLayer?, List.reverse_concat, List.find?_cons]
  cases (given.tree.leaf? path).isSome <;> rfl

theorem isSome_lastLayer?_iff :
    (lastLayer? trees path).isSome ↔ ∃ given ∈ trees, (given.tree.leaf? path).isSome := by
  simp only [lastLayer?, Option.isSome_map, List.find?_isSome, List.mem_reverse]

theorem Compatible.plain_of_leaf (fits : Compatible trees) (member : given ∈ trees)
    (isLeaf : (given.tree.leaf? path).isSome) : ∀ key ∈ path, IsPlainKey key :=
  fits.plain given member path (mem_paths_of_shape? (isSome_leaf?_iff.1 isLeaf))

theorem Compatible.plain_of_lastLayer? (fits : Compatible trees)
    (last : lastLayer? trees path = some layer) : ∀ key ∈ path, IsPlainKey key := by
  obtain ⟨given, member, isLeaf⟩ := isSome_lastLayer?_iff.1 (by rw [last]; rfl)
  exact fits.plain_of_leaf member isLeaf

theorem Compatible.of_append {later : List Contribution} (fits : Compatible (trees ++ later)) :
    Compatible trees where
  tidy given member := fits.tidy given (List.mem_append_left _ member)
  plain given member := fits.plain given (List.mem_append_left _ member)
  agree given member other otherMember :=
    fits.agree given (List.mem_append_left _ member) other (List.mem_append_left _ otherMember)

end

/-! ## The record -/

def Provenance.Records (provenance : Provenance) (trees : List Contribution) : Prop :=
  ∀ place layer, provenance.source? place = some layer ↔
    ∃ path, dotted path = place ∧ lastLayer? trees path = some layer

theorem Provenance.records_empty : Provenance.empty.Records [] := by
  intro place layer
  refine iff_of_false nofun ?_
  rintro ⟨path, -, last⟩
  cases last

theorem Provenance.Records.noteAll {provenance : Provenance} {trees : List Contribution}
    {given : Contribution} {places : List String} (records : provenance.Records trees)
    (fits : Compatible (trees ++ [given]))
    (written : ∀ place, place ∈ places ↔
      ∃ path, path.foldl dottedPlace "" = place ∧ (given.tree.leaf? path).isSome) :
    (provenance.noteAll given.layer places).Records (trees ++ [given]) := by
  have own : given ∈ trees ++ [given] := List.mem_append_right _ (List.mem_singleton_self _)
  intro place layer
  rw [Provenance.source?_noteAll]
  split
  · rename_i member
    obtain ⟨path, spelled, isLeaf⟩ := (written place).1 member
    have plain := fits.plain_of_leaf own isLeaf
    rw [foldl_dottedPlace plain] at spelled
    constructor
    · intro same
      exact ⟨path, spelled, by rw [lastLayer?_snoc, if_pos isLeaf, same]⟩
    · rintro ⟨other, otherSpelled, last⟩
      -- The place spells one path only, so the leaf is the last one there.
      obtain rfl := dotted_injective plain (fits.plain_of_lastLayer? last)
        (spelled.trans otherSpelled.symm)
      rwa [lastLayer?_snoc, if_pos isLeaf] at last
  · rename_i notWritten
    rw [records place layer]
    refine exists_congr fun path => and_congr_right fun spelled => ?_
    have noLeaf : ¬ (given.tree.leaf? path).isSome := by
      intro isLeaf
      refine notWritten ((written place).2 ⟨path, ?_, isLeaf⟩)
      rw [foldl_dottedPlace (fits.plain_of_leaf own isLeaf), spelled]
    rw [lastLayer?_snoc, if_neg noLeaf]

namespace LayeredTree

def ofLayers (first : Contribution) (later : List Contribution) : LayeredTree :=
  later.foldl (fun layered given => layered.overlay given.layer "" given.tree)
    (.ofLayer first.layer "" first.tree)

structure MadeOf (layered : LayeredTree) (trees : List Contribution) : Prop where
  shape : ∀ path isTable, layered.tree.shape? path = some isTable ↔
    ∃ given ∈ trees, given.tree.shape? path = some isTable
  records : layered.sources.Records trees

variable {layered : LayeredTree} {trees later : List Contribution} {given first : Contribution}

theorem madeOf_ofLayer (fits : Compatible [given]) :
    (ofLayer given.layer "" given.tree).MadeOf [given] where
  shape path isTable := by simp [ofLayer]
  records := Provenance.records_empty.noteAll fits fun _ =>
    mem_leafPlaces_iff (fits.tidy given (List.mem_singleton_self _))

theorem MadeOf.agrees (made : layered.MadeOf trees) (fits : Compatible (trees ++ [given])) :
    given.tree.Agrees layered.tree := by
  intro path isTable otherIsTable stands otherStands
  obtain ⟨other, member, otherStands⟩ := (made.shape path otherIsTable).1 otherStands
  exact fits.agree given (List.mem_append_right _ (List.mem_singleton_self _)) other
    (List.mem_append_left _ member) path _ _ stands otherStands

theorem MadeOf.overlay (made : layered.MadeOf trees) (fits : Compatible (trees ++ [given])) :
    (layered.overlay given.layer "" given.tree).MadeOf (trees ++ [given]) := by
  have agrees := made.agrees fits
  have tidy := fits.tidy given (List.mem_append_right _ (List.mem_singleton_self _))
  refine ⟨fun path isTable => ?_,
    made.records.noteAll fits fun _ => mem_writtenPlaces_iff_of_agrees tidy agrees⟩
  have below := made.shape path
  simp only [LayeredTree.overlay, shape?_mergedOver agrees, List.mem_append, List.mem_singleton,
    or_and_right, exists_or, exists_eq_left, ← below]
  cases stands : given.tree.shape? path with
  | none => simp
  | some here =>
      refine ⟨fun same => .inr same, fun either => ?_⟩
      cases either with
      | inl lower => exact congrArg some (agrees path _ _ stands lower)
      | inr same => exact same

theorem MadeOf.foldl (made : layered.MadeOf trees) (fits : Compatible (trees ++ later)) :
    (later.foldl (fun layered given => layered.overlay given.layer "" given.tree) layered).MadeOf
      (trees ++ later) := by
  induction later generalizing layered trees with
  | nil =>
      rw [List.append_nil]
      exact made
  | cons given later ih =>
      -- The next tree becomes the last of those that are merged already.
      rw [List.append_cons] at fits ⊢
      exact ih (made.overlay fits.of_append) fits

theorem madeOf_ofLayers (fits : Compatible (first :: later)) :
    (ofLayers first later).MadeOf (first :: later) :=
  have single : Compatible [first] := Compatible.of_append fits
  (madeOf_ofLayer single).foldl fits

theorem MadeOf.isSome_leaf?_iff (made : layered.MadeOf trees) {path : List String} :
    (layered.tree.leaf? path).isSome ↔ (lastLayer? trees path).isSome := by
  rw [Toml.isSome_leaf?_iff, made.shape, isSome_lastLayer?_iff]
  simp only [Toml.isSome_leaf?_iff]

/-- The record of compatible layers has the places of the leaves of the merged tree and no others,
and gives each the last layer that has a leaf there. -/
theorem sources_of_layers (fits : Compatible (first :: later)) :
    let layered := ofLayers first later
    (∀ place, (layered.sources.source? place).isSome ↔
      ∃ path, dotted path = place ∧ (layered.tree.leaf? path).isSome) ∧
    ∀ path, (layered.tree.leaf? path).isSome →
      layered.sources.source? (dotted path) = lastLayer? (first :: later) path := by
  intro layered
  have made : layered.MadeOf (first :: later) := madeOf_ofLayers fits
  constructor
  · intro place
    simp only [made.isSome_leaf?_iff, Option.isSome_iff_exists, made.records place,
      ← exists_and_left]
    exact exists_comm
  · intro path isLeaf
    obtain ⟨layer, last⟩ := Option.isSome_iff_exists.1 (made.isSome_leaf?_iff.1 isLeaf)
    rw [last]
    exact (made.records _ layer).2 ⟨path, rfl, last⟩

def ofSections (sections : List (String × List (String × Toml))) : Toml :=
  .table (sections.map fun entry => (entry.1, .table entry.2))

theorem tidy_ofSections {sections : List (String × List (String × Toml))}
    (distinct : (sections.map Prod.fst).Nodup)
    (each : ∀ entry ∈ sections, (entry.2.map Prod.fst).Nodup ∧
      ∀ leaf ∈ entry.2, leaf.2.isTable = false) : (ofSections sections).Tidy := by
  refine .table (by rwa [List.map_map]) fun entry member => ?_
  obtain ⟨given, known, rfl⟩ := List.mem_map.1 member
  obtain ⟨distinctLeaves, leaves⟩ := each given known
  exact .table distinctLeaves fun leaf isLeaf => .leaf (leaves leaf isLeaf)

def builtIn : Contribution :=
  ⟨.defaults, ofSections [("quote", [("timeout_ms", .integer 5000)]),
    ("wallet", [("frozen", .boolean false), ("allowlist", .array [])])]⟩

def twoFiles : List Contribution :=
  [⟨.user, ofSections [("policy", [("profile", .text "autonomous")]),
      ("wallet", [("frozen", .boolean true)])]⟩,
    ⟨.file, ofSections [("wallet", [("frozen", .boolean false)]), ("policy", [])]⟩]

theorem compatible_twoFiles : Compatible (builtIn :: twoFiles) where
  tidy given member := by
    simp only [twoFiles, builtIn, List.mem_cons, List.not_mem_nil, or_false] at member
    rcases member with rfl | rfl | rfl
    all_goals exact tidy_ofSections (by decide) (by decide)
  plain := by decide +kernel
  agree := by decide +kernel

theorem sources_of_layers_twoFiles :
    Compatible (builtIn :: twoFiles) ∧
      let sources := (ofLayers builtIn twoFiles).sources
      sources.source? "wallet.frozen" = some .file ∧
        sources.source? "policy.profile" = some .user ∧
        (sources.source? "wallet.allowlist").isSome := by
  obtain ⟨places, layers⟩ := sources_of_layers compatible_twoFiles
  exact ⟨compatible_twoFiles, layers ["wallet", "frozen"] rfl, layers ["policy", "profile"] rfl,
    (places "wallet.allowlist").2 ⟨["wallet", "allowlist"], rfl, rfl⟩⟩

end LayeredTree

end WalletPolicy
