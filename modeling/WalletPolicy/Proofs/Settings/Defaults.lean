import WalletPolicy.Proofs.Settings.Fields

/-!
# Two sets of defaults

Defaults are given twice: as a tree that files are laid over, and as the values of members that are
missing. Whatever is laid over the default tree reads as it does alone (`isDefault_defaultTree`). A
single text is read with less care than a tree, and the two ways agree for plain texts
(`readsAsTree_of_isPlain`).
-/

namespace WalletPolicy

namespace Toml

variable {upper lower : Toml} {upperEntries lowerEntries : List (String × Toml)}

/-! ## Trees over defaults -/

/-- A tree that stands for a value: it reads as the value, and what is laid over it reads as it does
alone. -/
structure IsDefault {Value : Type} [JsonForm Value] (tree : Toml) (standard : Value) : Prop where
  reads : JsonForm.read tree.toJson = some standard
  reads_over (upper : Toml) :
    (JsonForm.read (upper.mergedOver tree).toJson : Option Value) = JsonForm.read upper.toJson

theorem isDefault_leaf {Value : Type} [JsonForm Value] {standard : Value}
    (isLeaf : lower.isTable = false) (reads : JsonForm.read lower.toJson = some standard) :
    lower.IsDefault standard where
  reads := reads
  reads_over upper := by rw [mergedOver_leaf isLeaf]

theorem readsAs_merge_iff {Value : Type} [JsonForm Value] {standard value : Value}
    {above below : Option Toml} (isDefault : ∀ tree ∈ below, tree.IsDefault standard) :
    ReadsAs ((Option.merge mergedOver above below).map toJson) standard value ↔
      ReadsAs (above.map toJson) standard value := by
  cases below with
  | none => rw [Option.merge_none_right]
  | some lower =>
      have default := isDefault lower rfl
      cases above with
      | none =>
          change JsonForm.read lower.toJson = some value ↔ value = standard
          rw [default.reads, Option.some_inj, eq_comm]
      | some upper =>
          change JsonForm.read (upper.mergedOver lower).toJson = some value ↔ _
          rw [default.reads_over]
          exact Iff.rfl

theorem isDefault_table {Record : Type} [JsonForm Record] {fields : List (RecordField Record)}
    {standard : Record} (isRecord : IsRecordOf fields standard)
    (isDefault : ∀ field ∈ fields, ∀ tree ∈ lowerEntries.lookup field.key,
      tree.IsDefault (field.get standard)) :
    (Toml.table lowerEntries).IsDefault standard := by
  constructor
  · rw [toJson, isRecord]
    intro field member
    have unmerged : ReadsAs ((none : Option Toml).map toJson) (field.get standard)
        (field.get standard) := rfl
    have reads := (readsAs_merge_iff (isDefault field member)).2 unmerged
    rwa [Option.merge_none_left, ← lookup_entriesToJson] at reads
  · intro upper
    cases upper with
    | table upperEntries =>
        apply Option.ext
        intro record
        -- Only fields are looked up, so keys that the record does not know make no difference.
        rw [mergedOver, toJson, toJson, isRecord, isRecord]
        refine forall₂_congr fun field member => ?_
        rw [lookup_entriesToJson, lookup_entriesToJson, lookup_entriesMergedOver]
        exact readsAs_merge_iff (isDefault field member)
    | _ => rfl

theorem isDefault_section {Record : Type} [JsonForm Record] {fields : List (RecordField Record)}
    {standard : Record} (isRecord : IsRecordOf fields standard)
    (leaves : ∀ field ∈ fields, ∀ tree ∈ lowerEntries.lookup field.key,
      tree.isTable = false ∧ JsonForm.read tree.toJson = some (field.get standard)) :
    (Toml.table lowerEntries).IsDefault standard :=
  isDefault_table isRecord fun field member tree found =>
    isDefault_leaf (leaves field member tree found).1 (leaves field member tree found).2

/-! ## Trees without dates -/

mutual

def isUndated : Toml → Bool
  | .moment _ => false
  | .array items => itemsUndated items
  | .table entries => (marked? entries).isNone && entriesUndated entries
  | _ => true
termination_by structural tree => tree

def itemsUndated : List Toml → Bool
  | [] => true
  | item :: items => item.isUndated && itemsUndated items
termination_by structural items => items

def entriesUndated : List (String × Toml) → Bool
  | [] => true
  | (_, value) :: entries => value.isUndated && entriesUndated entries
termination_by structural entries => entries

end

mutual

theorem moments_of_isUndated {tree : Toml} (undated : tree.isUndated) :
    tree.withMarkedMoments? = some tree ∧ tree.withoutMoments = tree := by
  cases tree with
  | moment => cases undated
  | array items =>
      have ⟨marked, without⟩ := itemsMoments_of_undated undated
      rw [withMarkedMoments?, withoutMoments, marked, without]
      exact ⟨rfl, rfl⟩
  | table entries =>
      have ⟨unmarked, each⟩ := Bool.and_eq_true_iff.1 undated
      have ⟨marked, without⟩ := entriesMoments_of_undated each
      rw [withMarkedMoments?, Option.isNone_iff_eq_none.1 unmarked, withoutMoments, without, marked]
      exact ⟨rfl, rfl⟩
  | _ => exact ⟨rfl, rfl⟩

theorem itemsMoments_of_undated {items : List Toml} (undated : itemsUndated items) :
    itemsWithMarkedMoments? items = some items ∧ itemsWithoutMoments items = items := by
  cases items with
  | nil => exact ⟨rfl, rfl⟩
  | cons item items =>
      have ⟨first, others⟩ := Bool.and_eq_true_iff.1 undated
      have ⟨markedItem, item⟩ := moments_of_isUndated first
      have ⟨markedItems, items⟩ := itemsMoments_of_undated others
      rw [itemsWithMarkedMoments?, itemsWithoutMoments, markedItem, markedItems, item, items]
      exact ⟨rfl, rfl⟩

theorem entriesMoments_of_undated {entries : List (String × Toml)}
    (undated : entriesUndated entries) :
    entriesWithMarkedMoments? entries = some entries ∧ entriesWithoutMoments entries = entries := by
  cases entries with
  | nil => exact ⟨rfl, rfl⟩
  | cons entry entries =>
      have ⟨first, others⟩ := Bool.and_eq_true_iff.1 undated
      have ⟨markedValue, value⟩ := moments_of_isUndated first
      have ⟨markedEntries, entries⟩ := entriesMoments_of_undated others
      rw [entriesWithMarkedMoments?, entriesWithoutMoments, markedValue, markedEntries, value,
        entries]
      exact ⟨rfl, rfl⟩

end

end Toml

namespace Settings

/-! ## The default tree -/

theorem isDefault_defaultTree : defaultTree.IsDefault ({} : Settings) := by
  refine Toml.isDefault_table isRecordOf_sections ?_
  simp only [sections, List.forall_mem_cons, List.not_mem_nil, false_implies, implies_true, and_true]
  refine ⟨?policy, ?wallet, ?approval, ?quote, ?logging⟩ <;> rintro tree ⟨⟩
  case policy =>
    apply Toml.isDefault_section PolicySettings.isRecordOf_fields
    simp [PolicySettings.fields, List.lookup_cons, Toml.isTable, Toml.toJson, JsonForm.read]
  case wallet =>
    apply Toml.isDefault_section WalletSettings.isRecordOf_fields
    simp [WalletSettings.fields, List.lookup_cons, Toml.isTable, Toml.toJson, Toml.itemsToJson,
      JsonForm.read, Json.integerIn?]
  case approval =>
    apply Toml.isDefault_section ApprovalSettings.isRecordOf_fields
    simp [ApprovalSettings.fields, List.lookup_cons, Toml.isTable, Toml.toJson, JsonForm.read,
      Json.integerIn?]
  case quote =>
    apply Toml.isDefault_section QuoteSettings.isRecordOf_fields
    simp [QuoteSettings.fields, List.lookup_cons, Toml.isTable, Toml.toJson, JsonForm.read,
      Json.integerIn?]
  case logging =>
    apply Toml.isDefault_section LoggingSettings.isRecordOf_fields
    simp [LoggingSettings.fields, List.lookup_cons, Toml.isTable, Toml.toJson, Toml.itemsToJson,
      JsonForm.read]

theorem ofTree?_mergedOver_defaultTree (tree : Toml) :
    ofTree? (tree.mergedOver defaultTree) = ofTree? tree :=
  isDefault_defaultTree.reads_over tree

/-! ## Files on their own -/

variable {settings : Settings} {written path userPath : String} {tree : Toml} {file : SettingsFile}

theorem withVariables_nil (layered : LayeredTree) : (layered.withVariables []).1 = layered := by
  unfold LayeredTree.withVariables
  induction SettingVariable.all with
  | nil => rfl
  | cons setting settings ih =>
      have unset : layered.fallback? [] setting = none := by
        unfold LayeredTree.fallback?
        split <;> rfl
      rw [LayeredTree.fillAll, unset]
      exact ih

theorem ofFile_eq_ok_iff :
    ofFile file = .ok settings ↔
      ∃ tree, file.tree = .ok tree ∧ ofTree? tree = some settings ∧ settings.fault? = none := by
  simp only [ofFile, ofTree, bind_eq_ok_iff, checked_eq_ok_iff]

def LoadsAlone (userPath : String) (file : SettingsFile) (settings : Settings) : Prop :=
  ∃ loaded, load ⟨userPath, .missing⟩ (some file) [] = .ok loaded ∧ loaded.settings = settings

theorem loadsAlone_iff :
    LoadsAlone userPath file settings ↔
      ∃ tree, file.tree = .ok tree ∧ ofTree? (tree.mergedOver defaultTree) = some settings ∧
        settings.fault? = none := by
  have noUser : PartialLoad.defaults.addIfFound .user ⟨userPath, .missing⟩ = .ok .defaults := rfl
  simp only [LoadsAlone, load, noUser, PartialLoad.addNamed, bind_eq_ok_iff, ofTree, checked_eq_ok_iff,
    withVariables_nil, Except.ok.injEq]
  constructor
  · rintro ⟨_, ⟨_, rfl, _, ⟨tree, given, rfl⟩, _, ⟨read, faultless⟩, rfl⟩, rfl⟩
    exact ⟨tree, given, read, faultless⟩
  · rintro ⟨tree, given, read, faultless⟩
    exact ⟨_, ⟨_, rfl, _, ⟨tree, given, rfl⟩, settings, ⟨read, faultless⟩, rfl⟩, rfl⟩

theorem loadsAlone_iff_ofFile : LoadsAlone userPath file settings ↔ ofFile file = .ok settings := by
  simp only [loadsAlone_iff, ofFile_eq_ok_iff, ofTree?_mergedOver_defaultTree]

/-! ## Texts -/

def fileOf (path written : String) : SettingsFile := ⟨path, .content written.toUTF8⟩

/-- Whether a text that is read as a single text gives the settings of its tree, or none if the tree
has none. -/
def ReadsAsTree (written : String) : Prop :=
  (Toml.parse written).bind ofDocument? =
    ((Toml.parse written).bind Toml.withMarkedMoments?).bind ofTree?

instance : Decidable (ReadsAsTree written) := inferInstanceAs (Decidable (_ = _))

theorem tree_fileOf_eq_ok_iff (fits : written.utf8ByteSize ≤ maxSettingsBytes) :
    (fileOf path written).tree = .ok tree ↔
      (Toml.parse written).bind Toml.withMarkedMoments? = some tree := by
  have isText : String.fromUTF8? written.toUTF8 = some written := by
    unfold String.fromUTF8?
    exact dif_pos written.isValidUTF8
  have small : ¬ maxSettingsBytes < written.toUTF8.size := Nat.not_lt.2 fits
  unfold fileOf SettingsFile.tree SettingsFile.tree?
  simp only [isText, SettingsFile.treeOf, if_neg small]
  cases (Toml.parse written).bind Toml.withMarkedMoments? with
  | none => simp [bind, Except.bind, Functor.map, Except.map]
  | some tree => simp [bind, Except.bind, Functor.map, Except.map]

theorem ofFile_fileOf_eq_ok_iff (fits : written.utf8ByteSize ≤ maxSettingsBytes) :
    ofFile (fileOf path written) = .ok settings ↔
      ((Toml.parse written).bind Toml.withMarkedMoments?).bind ofTree? = some settings ∧
        settings.fault? = none := by
  simp only [ofFile_eq_ok_iff, tree_fileOf_eq_ok_iff fits, Option.bind_eq_some_iff]
  grind

theorem ofText_eq_ok_iff (reads : ReadsAsTree written) :
    ofText written = .ok settings ↔
      ((Toml.parse written).bind Toml.withMarkedMoments?).bind ofTree? = some settings ∧
        settings.fault? = none := by
  rw [ofText, checked_eq_ok_iff, reads]

/-! ## Plain texts -/

def isWithin (entry : String × Toml) : Bool :=
  match sectionSizes.lookup entry.1, entry.2 with
  | some size, .array items => items.length ≤ size
  | _, _ => true

def isPlain (tree : Toml) : Bool :=
  match tree with
  | .table entries => tree.isUndated && entries.all isWithin
  | _ => false

theorem trimmed_of_isWithin {entry : String × Toml} (within : isWithin entry) :
    trimmed entry.1 entry.2 = entry.2 := by
  unfold isWithin at within
  unfold trimmed
  split
  · rename_i size items found listed
    rw [found, listed] at within
    rw [listed, List.take_of_length_le (of_decide_eq_true within)]
  · rfl

theorem ofDocument?_of_isPlain (plain : isPlain tree) : ofDocument? tree = ofTree? tree := by
  cases tree with
  | table entries =>
      have ⟨undated, within⟩ := Bool.and_eq_true_iff.1 plain
      have untrimmed : (entries.map fun entry => (entry.1, trimmed entry.1 entry.2)) = entries := by
        refine (List.map_congr_left fun entry member => ?_).trans (List.map_id entries)
        exact Prod.ext rfl (trimmed_of_isWithin (List.all_eq_true.1 within entry member))
      rw [ofDocument?, (Toml.moments_of_isUndated undated).2]
      exact congrArg (fun entries => ofTree? (.table entries)) untrimmed
  | _ => cases plain

theorem isUndated_of_isPlain (plain : isPlain tree) : tree.isUndated := by
  cases tree with
  | table => exact (Bool.and_eq_true_iff.1 plain).1
  | _ => cases plain

theorem readsAsTree_of_isPlain (plain : ∀ tree ∈ Toml.parse written, isPlain tree) :
    ReadsAsTree written := by
  unfold ReadsAsTree
  cases parsed : Toml.parse written with
  | none => rfl
  | some tree =>
      have isPlainTree := plain tree parsed
      have marked := (Toml.moments_of_isUndated (isUndated_of_isPlain isPlainTree)).1
      rw [Option.bind_some, Option.bind_some, marked, Option.bind_some,
        ofDocument?_of_isPlain isPlainTree]

example : ¬ ReadsAsTree "approval = [1, 2, 3, 4]" := by decide +kernel

/-! ## The ways to read -/

/-- A tree over the default tree reads as the tree does. So a file loads on its own as what is read
from the file, and from its text if the text reads as its tree, which plain texts do. -/
theorem load_alone_agrees (fits : written.utf8ByteSize ≤ maxSettingsBytes) (userPath path : String) :
    (∀ tree, ofTree? (tree.mergedOver defaultTree) = ofTree? tree) ∧
      (∀ settings, LoadsAlone userPath (fileOf path written) settings ↔
        ofFile (fileOf path written) = .ok settings) ∧
      (ReadsAsTree written → ∀ settings, LoadsAlone userPath (fileOf path written) settings ↔
        ofText written = .ok settings) ∧
      ((∀ tree ∈ Toml.parse written, isPlain tree) → ReadsAsTree written) := by
  refine ⟨ofTree?_mergedOver_defaultTree, fun _ => loadsAlone_iff_ofFile, fun reads settings => ?_,
    readsAsTree_of_isPlain⟩
  rw [loadsAlone_iff_ofFile, ofFile_fileOf_eq_ok_iff fits, ofText_eq_ok_iff reads]

def sparseText : String :=
  "quote = [2500]\nnote = 'x'\n[policy]\n[wallet]\nfrozen = true\nunknown = [1, [2]]\n"

def sparseSettings : Settings where
  wallet.frozen := true
  quote.timeoutMillis := 2500

theorem loadsAlone_sparseText :
    sparseText.utf8ByteSize ≤ maxSettingsBytes ∧ ReadsAsTree sparseText ∧
      ofText sparseText = .ok sparseSettings ∧
      LoadsAlone "user.toml" (fileOf "config.toml" sparseText) sparseSettings := by
  have fits : sparseText.utf8ByteSize ≤ maxSettingsBytes := by decide +kernel
  have plain : ∀ tree ∈ Toml.parse sparseText, isPlain tree := by decide +kernel
  obtain ⟨-, -, agree, plainReads⟩ := load_alone_agrees fits "user.toml" "config.toml"
  have reads : ReadsAsTree sparseText := plainReads plain
  have faultless : sparseSettings.fault?.isNone := by decide +kernel
  have given : ofText sparseText = .ok sparseSettings :=
    checked_eq_ok_iff.2 ⟨by decide +kernel, Option.isNone_iff_eq_none.1 faultless⟩
  exact ⟨fits, reads, given, (agree reads sparseSettings).2 given⟩

end Settings

end WalletPolicy
