import Mathlib.Data.List.Basic
import WalletPolicy.Proofs.Settings.Sources

/-!
# What variables fill in

A setting that is due is counted and noted as one from the environment, but its value is put into
the tree only if no leaf stands where its section belongs.
-/

namespace WalletPolicy

structure Filling where
  setting : SettingVariable
  written : String

namespace Filling

def path (filling : Filling) : List String := filling.setting.path

def place (filling : Filling) : String := filling.setting.place

def value (filling : Filling) : Toml := filling.setting.kind.valueOf filling.written

theorem sameLength (filling other : Filling) : filling.path.length = other.path.length := rfl

theorem apart_of_ne {filling other : Filling} (differs : filling.path ≠ other.path) :
    ¬ filling.path <+: other.path ∧ ¬ other.path <+: filling.path :=
  ⟨fun leads => differs (leads.eq_of_length (sameLength _ _)),
    fun leads => differs (leads.eq_of_length (sameLength _ _)).symm⟩

end Filling

/-! ## Values that are put into a tree -/

namespace Toml

variable {tree value : Toml} {path other : List String} {fillings : List Filling}
  {filling : Filling}

theorem exists_table_of_shape? (stands : tree.shape? path = some true) :
    ∃ entries, tree.find? path = some (.table entries) := by
  obtain ⟨table, found, isTable⟩ := Option.map_eq_some_iff.1 stands
  cases table with
  | table entries => exact ⟨entries, found⟩
  | _ => cases isTable

theorem put_of_leafAbove (blocked : tree.LeafAbove path) : tree.put path value = tree := by
  induction path generalizing tree with
  | nil => exact absurd blocked (not_leafAbove_of_opensTo rfl)
  | cons key path ih =>
      cases tree with
      | table entries =>
          obtain ⟨child, found, blocked⟩ := leafAbove_table_cons.1 blocked
          rw [put, found, Option.getD_some, ih blocked, setKey_of_lookup found]
      | _ => rfl

theorem shape?_of_find?_below (found : tree.find? path = some value) (leads : other <+: path)
    (shorter : other ≠ path) : tree.shape? other = some true := by
  obtain ⟨below, rfl⟩ := leads
  have stands : tree.shape? (other ++ below) = some value.isTable := by
    rw [shape?, found]
    rfl
  refine shape?_above stands fun empty => shorter ?_
  rw [empty, List.append_nil]

theorem leaf?_of_opensTo (isOpen : tree.opensTo path) (leads : other <+: path)
    (shorter : other ≠ path) : tree.leaf? other = none := by
  obtain ⟨below, rfl⟩ := leads
  rw [← Option.not_isSome_iff_eq_none]
  intro isLeaf
  refine not_leafAbove_of_opensTo isOpen ⟨other, below, rfl, fun empty => shorter ?_, isLeaf⟩
  rw [empty, List.append_nil]

theorem leaf?_put (notBelow : ¬ path <+: other) :
    (tree.put path value).leaf? other = tree.leaf? other := by
  by_cases leads : other <+: path
  · -- On the way to the path there is no leaf before and none after, or nothing is changed.
    have shorter : other ≠ path := fun same => notBelow (same ▸ List.prefix_rfl)
    by_cases blocked : tree.LeafAbove path
    · rw [put_of_leafAbove blocked]
    · have isOpen := opensTo_of_not_leafAbove blocked
      rw [leaf?_of_opensTo isOpen leads shorter, ← Option.not_isSome_iff_eq_none,
        isSome_leaf?_iff, shape?_of_find?_below (find?_put isOpen) leads shorter]
      exact nofun
  · rw [leaf?, leaf?, find?_put_apart notBelow leads]

theorem opensTo_put_iff (sameLength : other.length = path.length) :
    (tree.put path value).opensTo other ↔ tree.opensTo other := by
  refine ⟨fun isOpen => ?_, opensTo_put sameLength⟩
  refine opensTo_of_not_leafAbove ?_
  rintro ⟨above, below, rfl, more, isLeaf⟩
  -- The path is longer than the way to the leaf, so the leaf is still there.
  have notBelow : ¬ path <+: above := by
    intro leads
    have room := leads.length_le
    have extra := List.length_pos_iff.2 more
    rw [List.length_append] at sameLength
    omega
  refine not_leafAbove_of_opensTo isOpen ⟨above, below, rfl, more, ?_⟩
  rwa [leaf?_put notBelow]

def fill (tree : Toml) (fillings : List Filling) : Toml :=
  fillings.foldl (fun tree filling => tree.put filling.path filling.value) tree

theorem fill_cons : tree.fill (filling :: fillings) =
    (tree.put filling.path filling.value).fill fillings := rfl

theorem find?_fill_apart
    (apart : ∀ filling ∈ fillings, tree.opensTo filling.path →
      ¬ filling.path <+: other ∧ ¬ other <+: filling.path) :
    (tree.fill fillings).find? other = tree.find? other := by
  induction fillings generalizing tree with
  | nil => rfl
  | cons first rest ih =>
      obtain ⟨firstApart, restApart⟩ := List.forall_mem_cons.1 apart
      have step : (tree.put first.path first.value).find? other = tree.find? other := by
        by_cases blocked : tree.LeafAbove first.path
        · rw [put_of_leafAbove blocked]
        · obtain ⟨notBelow, notAbove⟩ := firstApart (opensTo_of_not_leafAbove blocked)
          exact find?_put_apart notBelow notAbove
      rw [fill_cons, ih, step]
      intro filling member isOpen
      exact restApart filling member ((opensTo_put_iff (Filling.sameLength _ _)).1 isOpen)

theorem find?_fill (distinct : (fillings.map Filling.path).Nodup) (member : filling ∈ fillings)
    (isOpen : tree.opensTo filling.path) :
    (tree.fill fillings).find? filling.path = some filling.value := by
  induction fillings generalizing tree with
  | nil => cases member
  | cons first rest ih =>
      rw [List.map_cons, List.nodup_cons] at distinct
      rw [fill_cons]
      cases member with
      | head =>
          rw [find?_fill_apart, find?_put isOpen]
          intro other later _
          exact Filling.apart_of_ne fun same => distinct.1 (same ▸ List.mem_map_of_mem later)
      | tail _ later =>
          exact ih distinct.2 later ((opensTo_put_iff (Filling.sameLength _ _)).2 isOpen)

end Toml

/-! ## Settings that are due -/

structure Filling.IsDue (filling : Filling) (layered : LayeredTree) (environment : Variables) :
    Prop where
  isSetting : filling.setting ∈ SettingVariable.all
  unsettled : ∀ layer, layered.sources.source? filling.place = some layer → layer = .defaults
  present : environment.lookup filling.setting.variableName = some filling.written

namespace LayeredTree

variable {layered : LayeredTree} {environment : Variables} {settings : List SettingVariable}
  {setting : SettingVariable} {written : String}

def dueAmong (layered : LayeredTree) (environment : Variables) (settings : List SettingVariable) :
    List Filling :=
  settings.filterMap fun setting => (layered.fallback? environment setting).map (Filling.mk setting)

def due (layered : LayeredTree) (environment : Variables) : List Filling :=
  layered.dueAmong environment SettingVariable.all

theorem fallback?_eq_some_iff :
    layered.fallback? environment setting = some written ↔
      layered.sources.isSettled setting.place = false ∧
        environment.lookup setting.variableName = some written := by
  unfold fallback?
  split <;> simp_all

theorem mem_due_iff {filling : Filling} :
    filling ∈ layered.due environment ↔ filling.IsDue layered environment := by
  obtain ⟨setting, written⟩ := filling
  have member : ⟨setting, written⟩ ∈ layered.due environment ↔
      setting ∈ SettingVariable.all ∧ layered.fallback? environment setting = some written := by
    simp [due, dueAmong]
  rw [member, fallback?_eq_some_iff, Provenance.isSettled_eq_false_iff]
  exact ⟨fun ⟨isSetting, unsettled, present⟩ => ⟨isSetting, unsettled, present⟩,
    fun ⟨isSetting, unsettled, present⟩ => ⟨isSetting, unsettled, present⟩⟩

theorem map_setting_dueAmong_sublist :
    ((layered.dueAmong environment settings).map Filling.setting).Sublist settings := by
  induction settings with
  | nil => exact List.Sublist.slnil
  | cons setting settings ih =>
      rw [dueAmong, List.filterMap_cons]
      cases layered.fallback? environment setting with
      | none => exact ih.cons setting
      | some written => exact ih.cons_cons setting

theorem nodup_path_due : ((layered.due environment).map Filling.path).Nodup := by
  have all : (SettingVariable.all.map SettingVariable.path).Nodup := by decide
  have part : ((layered.due environment).map Filling.setting).Sublist SettingVariable.all :=
    map_setting_dueAmong_sublist
  have paths := part.map SettingVariable.path
  rw [List.map_map] at paths
  exact all.sublist paths

theorem dueAmong_fillIn (apart : setting.place ∉ settings.map SettingVariable.place) :
    (layered.fillIn setting written).dueAmong environment settings =
      layered.dueAmong environment settings := by
  refine List.filterMap_congr fun other member => ?_
  have differs : other.place ≠ setting.place :=
    fun same => apart (same ▸ List.mem_map_of_mem member)
  rw [fallback?, fallback?, Provenance.isSettled, Provenance.isSettled, fillIn,
    Provenance.source?_note, if_neg differs]

theorem fillAll_eq (distinct : (settings.map SettingVariable.place).Nodup) :
    let due := layered.dueAmong environment settings
    layered.fillAll environment settings =
      (⟨layered.tree.fill due, layered.sources.noteAll .environment (due.map Filling.place)⟩,
        due.length) := by
  induction settings generalizing layered with
  | nil => rfl
  | cons setting settings ih =>
      rw [List.map_cons, List.nodup_cons] at distinct
      rw [fillAll, dueAmong, List.filterMap_cons]
      cases layered.fallback? environment setting with
      | none => exact ih distinct.2
      | some written =>
          simp only [ih distinct.2, dueAmong_fillIn distinct.1]
          rfl

/-! ## The account -/

/-- What variables have changed: the settings in `told` are counted and noted, and the values of those
in `put` are in the tree. Above such a value there are tables only, some of them new, and elsewhere all
is as it was. -/
structure FillsIn (before : LayeredTree) (after : LayeredTree × Nat) (told put : List Filling) :
    Prop where
  count : after.2 = told.length
  sources : ∀ place, after.1.sources.source? place =
    if place ∈ told.map Filling.place then some .environment else before.sources.source? place
  values : ∀ filling ∈ put, after.1.tree.find? filling.path = some filling.value
  onTheWay : ∀ filling ∈ put, ∀ path, path <+: filling.path → path ≠ filling.path →
    before.tree.leaf? path = none ∧ ∃ entries, after.1.tree.find? path = some (.table entries)
  elsewhere : ∀ path, (∀ filling ∈ put, ¬ filling.path <+: path ∧ ¬ path <+: filling.path) →
    after.1.tree.find? path = before.tree.find? path

theorem fillsIn_open (layered : LayeredTree) (environment : Variables) :
    layered.FillsIn (layered.withVariables environment) (layered.due environment)
      ((layered.due environment).filter fun filling => layered.tree.opensTo filling.path) := by
  have result : layered.withVariables environment = _ :=
    fillAll_eq (by decide : (SettingVariable.all.map SettingVariable.place).Nodup)
  have values : ∀ filling ∈ layered.due environment, layered.tree.opensTo filling.path →
      (layered.tree.fill (layered.due environment)).find? filling.path = some filling.value :=
    fun _ isDue isOpen => Toml.find?_fill nodup_path_due isDue isOpen
  rw [result]
  constructor
  case count => rfl
  case sources => exact fun place => Provenance.source?_noteAll
  case values =>
    intro filling member
    obtain ⟨isDue, isOpen⟩ := List.mem_filter.1 member
    exact values filling isDue isOpen
  case onTheWay =>
    intro filling member path leads shorter
    obtain ⟨isDue, isOpen⟩ := List.mem_filter.1 member
    refine ⟨Toml.leaf?_of_opensTo isOpen leads shorter, Toml.exists_table_of_shape? ?_⟩
    exact Toml.shape?_of_find?_below (values filling isDue isOpen) leads shorter
  case elsewhere =>
    intro path apart
    exact Toml.find?_fill_apart fun filling isDue isOpen =>
      apart filling (List.mem_filter.2 ⟨isDue, isOpen⟩)

theorem find?_withVariables_of_leafAbove {filling : Filling}
    (blocked : layered.tree.LeafAbove filling.path) :
    (layered.withVariables environment).1.tree.find? filling.path = none := by
  have untouched := (fillsIn_open layered environment).elsewhere filling.path
  rw [Toml.find?_of_leafAbove blocked] at untouched
  refine untouched fun other member => Filling.apart_of_ne fun same => ?_
  exact Toml.not_leafAbove_of_opensTo (List.mem_filter.1 member).2 (same ▸ blocked)

/-- Variables fill in the settings that are due, as far as no leaf is in the way, and change nothing
else, but all settings that are due are counted and noted. So the account is of what was done if and
only if no leaf is in the way of any of them. -/
theorem withVariables_fillsIn (layered : LayeredTree) (environment : Variables) :
    let due := layered.due environment
    let filled := layered.withVariables environment
    (∀ filling, filling ∈ due ↔ filling.IsDue layered environment) ∧
      layered.FillsIn filled due (due.filter fun filling => layered.tree.opensTo filling.path) ∧
      (layered.FillsIn filled due due ↔ ∀ filling ∈ due, ¬ layered.tree.LeafAbove filling.path) := by
  intro due filled
  have fillsIn := fillsIn_open layered environment
  refine ⟨fun _ => mem_due_iff, fillsIn, ?_⟩
  constructor
  · intro exact filling isDue blocked
    have value := exact.values filling isDue
    rw [find?_withVariables_of_leafAbove blocked] at value
    cases value
  · intro clear
    have all : (due.filter fun filling => layered.tree.opensTo filling.path) = due :=
      List.filter_eq_self.2 fun filling isDue =>
        Toml.opensTo_of_not_leafAbove (clear filling isDue)
    rwa [all] at fillsIn

def blockedWallet : LayeredTree := ⟨.table [("wallet", .integer 5)], .empty⟩

/-- The variable is counted and noted as the source of a value that is not there. -/
theorem not_fillsIn_blockedWallet :
    let environment := [("WARDEN_FROZEN", "true")]
    let filled := blockedWallet.withVariables environment
    ¬ blockedWallet.FillsIn filled (blockedWallet.due environment) (blockedWallet.due environment) ∧
      filled.2 = 1 ∧ filled.1.sources.source? "wallet.frozen" = some .environment ∧
      (filled.1.tree.find? ["wallet", "frozen"]).isNone := by
  refine ⟨fun exact => ?_, by decide +kernel, by decide +kernel, by decide +kernel⟩
  have isDue : ⟨⟨"WARDEN_FROZEN", "wallet", "frozen", .truth⟩, "true"⟩ ∈
      blockedWallet.due [("WARDEN_FROZEN", "true")] := List.mem_singleton_self _
  cases exact.values _ isDue

end LayeredTree

end WalletPolicy
