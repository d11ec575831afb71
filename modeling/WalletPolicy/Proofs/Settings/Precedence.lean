import WalletPolicy.Proofs.Settings.Fields

/-!
# Which layer a field has its value from

The record of layers is kept by places, not by paths, and a table over a leaf is noted at the place
of the leaf alone. So the order of layers holds for a field whose section every file writes as a
table, if at all, and whose place no other path spells (`Settings.precedence_of_load`), and
otherwise it may not (`Settings.load_unfreezes`).
-/

namespace WalletPolicy

namespace SettingField

variable {field : SettingField}

def read? (field : SettingField) (environment : Variables) (setting : SettingVariable) :
    Option Toml :=
  if setting.path = field.path then
    (environment.lookup setting.variableName).map setting.kind.valueOf
  else none

def fallbackValue? (field : SettingField) (environment : Variables) : Option Toml :=
  SettingVariable.all.findSome? (field.read? environment)

def chosen? (field : SettingField) (userTree namedTree : Option Toml) (environment : Variables) :
    Option (Layer × Toml) :=
  ((namedTree.bind (·.leaf? field.path)).map (Layer.file, ·)) <|>
    ((userTree.bind (·.leaf? field.path)).map (Layer.user, ·)) <|>
    ((field.fallbackValue? environment).map (Layer.environment, ·)) <|>
    ((defaultTree.leaf? field.path).map (Layer.defaults, ·))

/-- The section of the field is a table, if it is there, and no other path is spelled like that of
the field. -/
structure IsPlainIn (field : SettingField) (tree : Toml) : Prop where
  isOpen : tree.opensTo field.path
  isUnique : ∀ path ∈ tree.paths, path.foldl dottedPlace "" = field.place → path = field.path

instance {tree : Toml} : Decidable (field.IsPlainIn tree) :=
  decidable_of_iff
    (tree.opensTo field.path ∧
      ∀ path ∈ tree.paths, path.foldl dottedPlace "" = field.place → path = field.path)
    ⟨fun ⟨isOpen, isUnique⟩ => ⟨isOpen, isUnique⟩, fun plain => ⟨plain.isOpen, plain.isUnique⟩⟩

theorem place_eq_of_path_eq {setting : SettingVariable} (same : setting.path = field.path) :
    setting.place = field.place := by
  have spelled : field.place = field.path.foldl dottedPlace "" := rfl
  rw [spelled, ← same]
  rfl

end SettingField

/-! ## Values that are picked so far -/

/-- What stands at a path, and the layer that is noted for its place, follow what was picked. A table
may hide a value that was picked if a file has put it there. -/
inductive Follows : Option (Layer × Toml) → Option Toml → Option Layer → Prop
  | absent : Follows none none none
  | value (layer : Layer) {leaf : Toml} (isLeaf : leaf.isTable = false) :
      Follows (some (layer, leaf)) (some leaf) (some layer)
  | table (entries : List (String × Toml)) : Follows none (some (.table entries)) none
  | hidden (picked : Option (Layer × Toml)) (entries : List (String × Toml)) {layer : Layer}
      (isSettled : layer ≠ .defaults) : Follows picked (some (.table entries)) (some layer)

def orFallback (picked : Option (Layer × Toml)) (value : Option Toml) : Option (Layer × Toml) :=
  match picked with
  | none | some (.defaults, _) => value.map (Layer.environment, ·) <|> picked
  | settled => settled

section

variable {picked : Option (Layer × Toml)} {stands : Option Toml} {source : Option Layer}

theorem orFallback_none : orFallback picked none = picked := by
  unfold orFallback
  split <;> rfl

theorem orFallback_orFallback {first second : Option Toml} :
    orFallback (orFallback picked first) second = orFallback picked (first <|> second) := by
  cases first with
  | none => rw [orFallback_none]; rfl
  | some value =>
      cases picked with
      | none => rfl
      | some pair => obtain ⟨layer, leaf⟩ := pair; cases layer <;> rfl

theorem Follows.orFallback_of_settled {value : Option Toml} (follows : Follows picked stands source)
    (settled : ∃ layer, source = some layer ∧ layer ≠ .defaults) :
    Follows (orFallback picked value) stands source := by
  obtain ⟨layer, rfl, isSettled⟩ := settled
  cases follows with
  | value _ isLeaf =>
      cases layer with
      | defaults => exact absurd rfl isSettled
      | _ => exact .value _ isLeaf
  | hidden _ entries => exact .hidden _ entries isSettled

theorem Follows.orFallback_eq_some {value : Toml} (follows : Follows picked stands source)
    (unsettled : ¬ ∃ layer, source = some layer ∧ layer ≠ .defaults) :
    orFallback picked (some value) = some (.environment, value) := by
  cases follows with
  | absent => rfl
  | table => rfl
  | value layer isLeaf =>
      cases layer with
      | defaults => rfl
      | _ => exact absurd ⟨_, rfl, nofun⟩ unsettled
  | hidden _ _ isSettled => exact absurd ⟨_, rfl, isSettled⟩ unsettled

theorem VariableKind.isTable_valueOf (kind : VariableKind) (written : String) :
    (kind.valueOf written).isTable = false := by
  cases kind with
  | text => rfl
  | number =>
      cases read : integerText? written with
      | none => rw [valueOf, read]; rfl
      | some value =>
          rw [valueOf, read]
          unfold integerText? at read
          split at read
          dsimp only at read
          split at read
          · cases read
          · exact Toml.isTable_eq_false_of_boundedInteger read
  | truth =>
      rw [valueOf, truthText?]
      split
      · rfl
      · split <;> rfl

end

/-! ## One layer over others -/

namespace LayeredTree

structure Holds (layered : LayeredTree) (field : SettingField) (picked : Option (Layer × Toml)) :
    Prop where
  isOpen : layered.tree.opensTo field.path
  follows : Follows picked (layered.tree.find? field.path) (layered.sources.source? field.place)

variable {layered : LayeredTree} {field : SettingField} {picked : Option (Layer × Toml)}
  {environment : Variables} {setting : SettingVariable} {settings : List SettingVariable}

theorem Holds.overlay {layer : Layer} {upper : Toml} (holds : layered.Holds field picked)
    (isFile : layer ≠ .defaults) (tidy : upper.Tidy) (plain : field.IsPlainIn upper) :
    (layered.overlay layer "" upper).Holds field
      ((upper.leaf? field.path).map (layer, ·) <|> picked) := by
  obtain ⟨isOpen, follows⟩ := holds
  have written : field.place ∈ upper.writtenPlaces "" layered.tree ↔
      upper.writesAt layered.tree field.path :=
    Toml.mem_writtenPlaces_iff tidy isOpen plain.isUnique
  refine ⟨Toml.opensTo_mergedOver plain.isOpen isOpen, ?_⟩
  simp only [LayeredTree.overlay, Provenance.source?_noteAll, written,
    Toml.find?_mergedOver plain.isOpen, Toml.writesAt, Toml.leaf?]
  generalize layered.tree.find? field.path = below at follows ⊢
  generalize layered.sources.source? field.place = source at follows ⊢
  cases upper.find? field.path with
  | none =>
      rw [Option.merge_none_left]
      simpa using follows
  | some value =>
      cases value with
      | table entries =>
          cases follows with
          | absent => exact .table entries
          | table => exact .table _
          | hidden _ _ isSettled => exact .hidden _ _ isSettled
          | @value lower leaf isLeaf =>
              -- The place of the leaf is noted, so no variable replaces the table any more.
              cases leaf with
              | table => cases isLeaf
              | _ => exact .hidden _ _ isFile
      | _ => cases below <;> exact .value layer rfl

theorem Holds.fillIn_of_ne (holds : layered.Holds field picked) (written : String)
    (differs : setting.path ≠ field.path) (apart : setting.place ≠ field.place) :
    (layered.fillIn setting written).Holds field picked := by
  have sameLength : field.path.length = setting.path.length := rfl
  constructor
  · exact Toml.opensTo_put sameLength holds.isOpen
  · simp only [fillIn, Toml.find?_put_of_ne sameLength differs.symm, Provenance.source?_note,
      if_neg apart.symm]
    exact holds.follows

theorem holds_fillIn (isOpen : layered.tree.opensTo field.path) (written : String)
    (same : setting.path = field.path) :
    (layered.fillIn setting written).Holds field
      (some (.environment, setting.kind.valueOf written)) := by
  constructor
  · exact Toml.opensTo_put (same ▸ rfl) isOpen
  · simp only [fillIn, same, SettingField.place_eq_of_path_eq same, Toml.find?_put isOpen,
      Provenance.source?_note, if_true]
    exact .value .environment (setting.kind.isTable_valueOf written)

def filled (layered : LayeredTree) (environment : Variables) (setting : SettingVariable) :
    LayeredTree :=
  match layered.fallback? environment setting with
  | none => layered
  | some written => layered.fillIn setting written

theorem fst_fillAll_cons :
    (layered.fillAll environment (setting :: settings)).1 =
      ((layered.filled environment setting).fillAll environment settings).1 := by
  rw [fillAll, filled]
  cases layered.fallback? environment setting <;> rfl

theorem Holds.filled (holds : layered.Holds field picked)
    (apart : setting.place = field.place → setting.path = field.path) :
    (layered.filled environment setting).Holds field
      (orFallback picked (field.read? environment setting)) := by
  unfold SettingField.read? LayeredTree.filled
  by_cases same : setting.path = field.path
  · rw [if_pos same, fallback?, SettingField.place_eq_of_path_eq same]
    by_cases settled : layered.sources.isSettled field.place
    · rw [if_pos settled]
      exact ⟨holds.isOpen, holds.follows.orFallback_of_settled (Provenance.isSettled_iff.1 settled)⟩
    · rw [if_neg settled]
      cases environment.lookup setting.variableName with
      | none =>
          rw [Option.map_none, orFallback_none]
          exact holds
      | some written =>
          rw [Provenance.isSettled_iff] at settled
          rw [Option.map_some, holds.follows.orFallback_eq_some settled]
          exact holds_fillIn holds.isOpen written same
  · rw [if_neg same, orFallback_none]
    cases layered.fallback? environment setting with
    | none => exact holds
    | some written => exact holds.fillIn_of_ne written same fun place => same (apart place)

theorem Holds.fillAll (holds : layered.Holds field picked)
    (apart : ∀ setting ∈ settings, setting.place = field.place → setting.path = field.path) :
    (layered.fillAll environment settings).1.Holds field
      (orFallback picked (settings.findSome? (field.read? environment))) := by
  induction settings generalizing layered picked with
  | nil =>
      rw [List.findSome?_nil, orFallback_none]
      exact holds
  | cons setting settings ih =>
      -- What one variable fills in is settled, so later ones for the field change nothing.
      have first : (layered.filled environment setting).Holds field _ :=
        holds.filled (apart setting List.mem_cons_self)
      have rest := ih first fun later member => apart later (List.mem_cons_of_mem _ member)
      rw [orFallback_orFallback] at rest
      rw [fst_fillAll_cons, List.findSome?_cons]
      cases given : field.read? environment setting with
      | none => rw [given] at rest; exact rest
      | some value => rw [given] at rest; exact rest

end LayeredTree

/-! ## Loading -/

namespace SettingField

variable {field : SettingField}

theorem chosen?_eq_orFallback {userTree namedTree : Option Toml} {environment : Variables} :
    field.chosen? userTree namedTree environment =
      orFallback
        ((namedTree.bind (·.leaf? field.path)).map (Layer.file, ·) <|>
          (userTree.bind (·.leaf? field.path)).map (Layer.user, ·) <|>
          (defaultTree.leaf? field.path).map (Layer.defaults, ·))
        (field.fallbackValue? environment) := by
  unfold chosen?
  cases namedTree.bind (·.leaf? field.path) with
  | some => rfl
  | none =>
      cases userTree.bind (·.leaf? field.path) with
      | some => rfl
      | none => cases defaultTree.leaf? field.path <;> rfl

theorem path_eq_of_place_eq : ∀ field ∈ all, ∀ setting ∈ SettingVariable.all,
    setting.place = field.place → setting.path = field.path := by
  decide +kernel

theorem source?_defaults : ∀ field ∈ all,
    PartialLoad.defaults.layered.sources.source? field.place =
      (defaultTree.leaf? field.path).map fun _ => .defaults := by
  decide +kernel

theorem opensTo_defaultTree : ∀ field ∈ all, defaultTree.opensTo field.path := by
  decide +kernel

theorem isTable_find?_defaultTree : ∀ field ∈ all,
    (defaultTree.find? field.path).any Toml.isTable = false := by
  decide +kernel

theorem holds_defaults (member : field ∈ all) :
    PartialLoad.defaults.layered.Holds field
      ((defaultTree.leaf? field.path).map (Layer.defaults, ·)) := by
  refine ⟨opensTo_defaultTree field member, ?_⟩
  rw [source?_defaults field member]
  have noTable := isTable_find?_defaultTree field member
  have sameTree : PartialLoad.defaults.layered.tree = defaultTree := rfl
  rw [sameTree, Toml.leaf?]
  cases stands : defaultTree.find? field.path with
  | none => exact .absent
  | some value =>
      rw [stands] at noTable
      cases value with
      | table => cases noTable
      | _ => exact .value .defaults rfl

end SettingField

def LayeredTree.over (layered : LayeredTree) (layer : Layer) (upper : Option Toml) : LayeredTree :=
  match upper with
  | none => layered
  | some upper => layered.overlay layer "" upper

theorem LayeredTree.Holds.over {layered : LayeredTree} {field : SettingField}
    {picked : Option (Layer × Toml)} {layer : Layer} {upper : Option Toml}
    (holds : layered.Holds field picked) (isFile : layer ≠ .defaults)
    (tidy : ∀ tree ∈ upper, tree.Tidy) (plain : ∀ tree ∈ upper, field.IsPlainIn tree) :
    (layered.over layer upper).Holds field
      ((upper.bind (·.leaf? field.path)).map (layer, ·) <|> picked) := by
  cases upper with
  | none => exact holds
  | some tree => exact holds.overlay isFile (tidy tree rfl) (plain tree rfl)

namespace Settings

variable {user : SettingsFile} {named : Option SettingsFile} {environment : Variables}
  {loaded : LoadedSettings} {userTree namedTree : Option Toml}

def merged (userTree namedTree : Option Toml) (environment : Variables) : LayeredTree :=
  (((PartialLoad.defaults.layered.over .user userTree).over .file namedTree).withVariables
    environment).1

theorem ofTree?_merged (userRead : user.tree? = .ok userTree)
    (namedRead : named.mapM SettingsFile.tree = .ok namedTree)
    (loads : load user named environment = .ok loaded) :
    ofTree? (merged userTree namedTree environment).tree = some loaded.settings ∧
      loaded.sources = (merged userTree namedTree environment).sources := by
  obtain ⟨first, added, loads⟩ := bind_eq_ok_iff.1 loads
  obtain ⟨second, addedNamed, loads⟩ := bind_eq_ok_iff.1 loads
  obtain ⟨settings, checked, loads⟩ := bind_eq_ok_iff.1 loads
  have firstLayers : first.layered = PartialLoad.defaults.layered.over .user userTree := by
    rw [PartialLoad.addIfFound, userRead] at added
    cases userTree <;> cases added <;> rfl
  have secondLayers : second.layered = first.layered.over .file namedTree := by
    cases named with
    | none => cases namedRead; cases addedNamed; rfl
    | some file =>
        obtain ⟨tree, read, rfl⟩ := map_eq_ok_iff.1 namedRead
        rw [PartialLoad.addNamed, read] at addedNamed
        cases addedNamed
        rfl
  rw [secondLayers, firstLayers] at checked loads
  cases loads
  exact ⟨(checked_eq_ok_iff.1 checked).1, rfl⟩

theorem holds_merged (userRead : user.tree? = .ok userTree)
    (namedRead : named.mapM SettingsFile.tree = .ok namedTree) {field : SettingField}
    (member : field ∈ SettingField.all) (userPlain : ∀ tree ∈ userTree, field.IsPlainIn tree)
    (namedPlain : ∀ tree ∈ namedTree, field.IsPlainIn tree) :
    (merged userTree namedTree environment).Holds field
      (field.chosen? userTree namedTree environment) := by
  have userTidy : ∀ tree ∈ userTree, tree.Tidy := by
    rintro tree rfl
    exact SettingsFile.tidy_tree? userRead
  have namedTidy : ∀ tree ∈ namedTree, tree.Tidy := by
    rintro tree rfl
    cases named with
    | none => cases namedRead
    | some file =>
        obtain ⟨given, read, same⟩ := map_eq_ok_iff.1 namedRead
        cases same
        exact SettingsFile.tidy_tree read
  have defaults := SettingField.holds_defaults member
  have withUser : (PartialLoad.defaults.layered.over .user userTree).Holds field _ :=
    defaults.over nofun userTidy userPlain
  have withFiles : ((PartialLoad.defaults.layered.over .user userTree).over .file namedTree).Holds
      field _ := withUser.over nofun namedTidy namedPlain
  rw [SettingField.chosen?_eq_orFallback]
  exact withFiles.fillAll (SettingField.path_eq_of_place_eq field member)

/-- Loaded settings give a field what the first layer with a value says, and note that layer. -/
theorem precedence_of_load (userRead : user.tree? = .ok userTree)
    (namedRead : named.mapM SettingsFile.tree = .ok namedTree)
    (loads : load user named environment = .ok loaded) {field : SettingField}
    (member : field ∈ SettingField.all) (userPlain : ∀ tree ∈ userTree, field.IsPlainIn tree)
    (namedPlain : ∀ tree ∈ namedTree, field.IsPlainIn tree) :
    let chosen := field.chosen? userTree namedTree environment
    field.IsGivenBy loaded.settings (chosen.map Prod.snd) ∧
      loaded.sources.source? field.place = chosen.map Prod.fst := by
  obtain ⟨read, sources⟩ := ofTree?_merged userRead namedRead loads
  have holds : (merged userTree namedTree environment).Holds field _ :=
    holds_merged userRead namedRead member userPlain namedPlain
  obtain ⟨isOpen, follows⟩ := holds
  have given := SettingField.isGivenBy_find? member isOpen read
  rw [sources]
  generalize merged userTree namedTree environment = layered at given follows ⊢
  generalize layered.tree.find? field.path = stands at given follows
  generalize layered.sources.source? field.place = source at follows ⊢
  generalize field.chosen? userTree namedTree environment = chosen at follows ⊢
  -- Where a table stands the settings cannot be read.
  cases follows with
  | absent => exact ⟨given, rfl⟩
  | value => exact ⟨given, rfl⟩
  | table => exact absurd given (SettingField.not_isGivenBy_table member)
  | hidden => exact absurd given (SettingField.not_isGivenBy_table member)

/-! ## A wallet that a file freezes -/

def frozenField : SettingField :=
  ⟨⟨"wallet", Settings.wallet⟩, ⟨"frozen", WalletSettings.frozen⟩⟩

def freezes (tree : Toml) : Bool :=
  match tree.leaf? frozenField.path with
  | some (.boolean isFrozen) => isFrozen
  | _ => false

theorem freezes_iff {tree : Toml} :
    freezes tree ↔ tree.leaf? frozenField.path = some (.boolean true) := by
  unfold freezes
  split <;> simp_all

def saysOf (file : SettingsFile) (property : Toml → Bool) : Bool :=
  match file.tree? with
  | .ok (some tree) => property tree
  | _ => false

theorem exists_of_saysOf {file : SettingsFile} {property : Toml → Bool}
    (stated : saysOf file property) :
    ∃ tree, file.tree? = .ok (some tree) ∧ file.tree = .ok tree ∧ property tree := by
  unfold saysOf at stated
  split at stated
  · rename_i tree read
    exact ⟨tree, read, by rw [SettingsFile.tree, read]; rfl, stated⟩
  · cases stated

def quotingFile : SettingsFile :=
  ⟨"config.toml", .content "[quote]\ntimeout_ms = 2000\n".toUTF8⟩

def freezingFile : SettingsFile :=
  ⟨"file.toml", .content "[wallet]\nfrozen = true\n".toUTF8⟩

def unfreezing : Variables := [("WARDEN_FROZEN", "false")]

theorem load_keepsFrozen :
    ∃ loaded, load quotingFile (some freezingFile) unfreezing = .ok loaded ∧
      loaded.settings.wallet.frozen = true ∧
      loaded.sources.source? "wallet.frozen" = some .file := by
  obtain ⟨userTree, userRead, -, userPlain⟩ := exists_of_saysOf
    (show saysOf quotingFile fun tree => frozenField.IsPlainIn tree by decide +kernel)
  obtain ⟨namedTree, -, namedRead, namedStated⟩ := exists_of_saysOf
    (show saysOf freezingFile fun tree => frozenField.IsPlainIn tree && freezes tree by
      decide +kernel)
  obtain ⟨namedPlain, frozen⟩ := Bool.and_eq_true_iff.1 namedStated
  have succeeds : (load quotingFile (some freezingFile) unfreezing).toBool := by decide +kernel
  cases loads : load quotingFile (some freezingFile) unfreezing with
  | error => rw [loads] at succeeds; cases succeeds
  | ok loaded =>
      have namedReads : (some freezingFile).mapM SettingsFile.tree = .ok (some namedTree) :=
        map_eq_ok_iff.2 ⟨namedTree, namedRead, rfl⟩
      have member : frozenField ∈ SettingField.all := by
        simp [SettingField.all, frozenField, WalletSettings.fields]
      obtain ⟨given, source⟩ := precedence_of_load userRead namedReads loads member
        (by rintro tree ⟨⟩; exact of_decide_eq_true userPlain)
        (by rintro tree ⟨⟩; exact of_decide_eq_true namedPlain)
      rw [SettingField.chosen?, Option.bind_some, freezes_iff.1 frozen] at given source
      exact ⟨loaded, rfl, (Option.some.inj given).symm, source⟩

def numberingFile : SettingsFile := ⟨"config.toml", .content "wallet = 5\n".toUTF8⟩

/-- A table over the number is noted as one place, so what it freezes counts as a default. -/
theorem load_unfreezes :
    saysOf freezingFile freezes ∧
      ∃ loaded, load numberingFile (some freezingFile) unfreezing = .ok loaded ∧
        loaded.settings.wallet.frozen = false ∧
        loaded.sources.source? "wallet.frozen" = some .environment := by
  have result : ((load numberingFile (some freezingFile) unfreezing).toOption.map fun loaded =>
      (loaded.settings.wallet.frozen, loaded.sources.source? "wallet.frozen")) =
      some (false, some .environment) := by decide +kernel
  refine ⟨by decide +kernel, ?_⟩
  cases loads : load numberingFile (some freezingFile) unfreezing with
  | error => rw [loads] at result; cases result
  | ok loaded =>
      rw [loads] at result
      obtain ⟨frozen, source⟩ := Prod.mk.inj (Option.some.inj result)
      exact ⟨loaded, rfl, frozen, source⟩

end Settings

end WalletPolicy
