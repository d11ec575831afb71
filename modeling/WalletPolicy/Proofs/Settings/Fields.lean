import WalletPolicy.Proofs.Settings.Merging

namespace WalletPolicy

def ReadsAs {Value : Type} [JsonForm Value] (given : Option Json) (standard value : Value) : Prop :=
  match given with
  | some json => JsonForm.read json = some value
  | none => value = standard

theorem Json.Members.getD_named_eq_some_iff {Value : Type} [JsonForm Value]
    {members : List (String × Json)} {place : Nat} {name : String} {standard value : Value} :
    (Json.Members.named members).getD place name standard = some value ↔
      ReadsAs (members.lookup name) standard value := by
  unfold getD ReadsAs
  rw [show (Json.Members.named members).find? place name = members.lookup name from rfl]
  cases members.lookup name with
  | none => exact (Option.some.injEq ..).to_iff.trans eq_comm
  | some json => exact Iff.rfl

theorem Toml.lookup_entriesToJson {entries : List (String × Toml)} {key : String} :
    (entriesToJson entries).lookup key = (entries.lookup key).map toJson := by
  induction entries with
  | nil => rfl
  | cons entry rest ih =>
      rw [entriesToJson, List.lookup_cons, List.lookup_cons, ih]
      cases key == entry.1 <;> rfl

/-! ## Members of records -/

structure RecordField (Record : Type) where
  key : String
  {Value : Type}
  [form : JsonForm Value]
  get : Record → Value

attribute [instance] RecordField.form

def RecordField.Describes {Record : Type} [JsonForm Record] (field : RecordField Record)
    (standard : Record) : Prop :=
  ∀ members record, JsonForm.read (.object members) = some record →
    ReadsAs (members.lookup field.key) (field.get standard) (field.get record)

/-- A record is read from an object if and only if it has at each of its fields what the object has
under the key of the field. -/
def IsRecordOf {Record : Type} [JsonForm Record] (fields : List (RecordField Record))
    (standard : Record) : Prop :=
  ∀ members record, JsonForm.read (.object members) = some record ↔
    ∀ field ∈ fields, ReadsAs (members.lookup field.key) (field.get standard) (field.get record)

theorem IsRecordOf.describes {Record : Type} [JsonForm Record] {fields : List (RecordField Record)}
    {standard : Record} (isRecord : IsRecordOf fields standard) {field : RecordField Record}
    (member : field ∈ fields) : field.Describes standard :=
  fun members record read => (isRecord members record).1 read field member

def Settings.sections : List (RecordField Settings) :=
  [⟨"policy", Settings.policy⟩, ⟨"wallet", Settings.wallet⟩, ⟨"approval", Settings.approval⟩,
    ⟨"quote", Settings.quote⟩, ⟨"logging", Settings.logging⟩]

def PolicySettings.fields : List (RecordField PolicySettings) :=
  [⟨"profile", fun policy => policy.profile⟩,
    ⟨"per_tx_eth_cap", fun policy => policy.overrides.perTxNativeCap⟩,
    ⟨"daily_eth_cap", fun policy => policy.overrides.dailyNativeCap⟩,
    ⟨"per_tx_stablecoin_cap", fun policy => policy.overrides.perTxStablecoinCap⟩,
    ⟨"daily_stablecoin_cap", fun policy => policy.overrides.dailyStablecoinCap⟩,
    ⟨"max_tx_per_hour", fun policy => policy.overrides.maxTxPerHour⟩,
    ⟨"min_cooldown_secs", fun policy => policy.overrides.minCooldownSecs⟩,
    ⟨"max_slippage_bps", fun policy => policy.overrides.maxSlippageBps⟩]

def WalletSettings.fields : List (RecordField WalletSettings) :=
  [⟨"address", WalletSettings.address⟩, ⟨"home_chain_id", WalletSettings.homeChainId⟩,
    ⟨"frozen", WalletSettings.frozen⟩, ⟨"allowlist", WalletSettings.allowlist⟩,
    ⟨"entry_point", WalletSettings.entryPoint⟩]

def ApprovalSettings.fields : List (RecordField ApprovalSettings) :=
  [⟨"expiry_secs", ApprovalSettings.expirySecs⟩,
    ⟨"max_failed_per_code", ApprovalSettings.maxFailedPerCode⟩,
    ⟨"max_global_failures_per_minute", ApprovalSettings.maxFailuresPerMinute⟩]

def QuoteSettings.fields : List (RecordField QuoteSettings) :=
  [⟨"timeout_ms", QuoteSettings.timeoutMillis⟩]

def LoggingSettings.fields : List (RecordField LoggingSettings) :=
  [⟨"level", LoggingSettings.level⟩, ⟨"format", LoggingSettings.format⟩,
    ⟨"directives", LoggingSettings.directives⟩]

theorem Json.readRecord_object_eq_some_iff {Record : Type} {count : Nat}
    {read : Json.Members → Option Record} {members : List (String × Json)} {record : Record} :
    Json.readRecord count read (.object members) = some record ↔
      read (.named members) = some record := Iff.rfl

theorem PolicySettings.isRecordOf_fields : IsRecordOf PolicySettings.fields {} := by
  intro members record
  simp only [JsonForm.read, Json.readRecord_object_eq_some_iff, PolicySettings.ofMembers?,
    Option.bind_eq_bind, Option.bind_eq_some_iff, Json.Members.getD_named_eq_some_iff,
    Option.some.injEq, fields, List.forall_mem_cons, List.not_mem_nil, false_implies, implies_true,
    and_true]
  constructor
  · rintro ⟨_, profile, _, perTxNativeCap, _, dailyNativeCap, _, perTxStablecoinCap, _,
      dailyStablecoinCap, _, maxTxPerHour, _, minCooldownSecs, _, maxSlippageBps, rfl⟩
    exact ⟨profile, perTxNativeCap, dailyNativeCap, perTxStablecoinCap, dailyStablecoinCap,
      maxTxPerHour, minCooldownSecs, maxSlippageBps⟩
  · rintro ⟨profile, perTxNativeCap, dailyNativeCap, perTxStablecoinCap, dailyStablecoinCap,
      maxTxPerHour, minCooldownSecs, maxSlippageBps⟩
    exact ⟨_, profile, _, perTxNativeCap, _, dailyNativeCap, _, perTxStablecoinCap, _,
      dailyStablecoinCap, _, maxTxPerHour, _, minCooldownSecs, _, maxSlippageBps, rfl⟩

theorem WalletSettings.isRecordOf_fields : IsRecordOf WalletSettings.fields {} := by
  intro members record
  simp only [JsonForm.read, Json.readRecord_object_eq_some_iff, Option.bind_eq_bind,
    Option.bind_eq_some_iff, Json.Members.getD_named_eq_some_iff, Option.some.injEq, fields,
    List.forall_mem_cons, List.not_mem_nil, false_implies, implies_true, and_true]
  constructor
  · rintro ⟨_, address, _, homeChainId, _, frozen, _, allowlist, _, entryPoint, rfl⟩
    exact ⟨address, homeChainId, frozen, allowlist, entryPoint⟩
  · rintro ⟨address, homeChainId, frozen, allowlist, entryPoint⟩
    exact ⟨_, address, _, homeChainId, _, frozen, _, allowlist, _, entryPoint, rfl⟩

theorem ApprovalSettings.isRecordOf_fields : IsRecordOf ApprovalSettings.fields {} := by
  intro members record
  simp only [JsonForm.read, Json.readRecord_object_eq_some_iff, Option.bind_eq_bind,
    Option.bind_eq_some_iff, Json.Members.getD_named_eq_some_iff, Option.some.injEq, fields,
    List.forall_mem_cons, List.not_mem_nil, false_implies, implies_true, and_true]
  constructor
  · rintro ⟨_, expirySecs, _, maxFailedPerCode, _, maxFailuresPerMinute, rfl⟩
    exact ⟨expirySecs, maxFailedPerCode, maxFailuresPerMinute⟩
  · rintro ⟨expirySecs, maxFailedPerCode, maxFailuresPerMinute⟩
    exact ⟨_, expirySecs, _, maxFailedPerCode, _, maxFailuresPerMinute, rfl⟩

theorem QuoteSettings.isRecordOf_fields : IsRecordOf QuoteSettings.fields {} := by
  intro members record
  simp only [JsonForm.read, Json.readRecord_object_eq_some_iff, Option.bind_eq_bind,
    Option.bind_eq_some_iff, Json.Members.getD_named_eq_some_iff, Option.some.injEq, fields,
    List.forall_mem_cons, List.not_mem_nil, false_implies, implies_true, and_true]
  constructor
  · rintro ⟨_, timeoutMillis, rfl⟩
    exact timeoutMillis
  · intro timeoutMillis
    exact ⟨_, timeoutMillis, rfl⟩

theorem LoggingSettings.isRecordOf_fields : IsRecordOf LoggingSettings.fields {} := by
  intro members record
  simp only [JsonForm.read, Json.readRecord_object_eq_some_iff, Option.bind_eq_bind,
    Option.bind_eq_some_iff, Json.Members.getD_named_eq_some_iff, Option.some.injEq, fields,
    List.forall_mem_cons, List.not_mem_nil, false_implies, implies_true, and_true]
  constructor
  · rintro ⟨_, level, _, format, _, directives, rfl⟩
    exact ⟨level, format, directives⟩
  · rintro ⟨level, format, directives⟩
    exact ⟨_, level, _, format, _, directives, rfl⟩

theorem Settings.isRecordOf_sections : IsRecordOf Settings.sections {} := by
  intro members record
  simp only [JsonForm.read, Json.readRecord_object_eq_some_iff, Option.bind_eq_bind,
    Option.bind_eq_some_iff, Json.Members.getD_named_eq_some_iff, Option.some.injEq, sections,
    List.forall_mem_cons, List.not_mem_nil, false_implies, implies_true, and_true]
  constructor
  · rintro ⟨_, policy, _, wallet, _, approval, _, quote, _, logging, rfl⟩
    exact ⟨policy, wallet, approval, quote, logging⟩
  · rintro ⟨policy, wallet, approval, quote, logging⟩
    exact ⟨_, policy, _, wallet, _, approval, _, quote, _, logging, rfl⟩

theorem Settings.checked_eq_ok_iff {path : String} {read : Option Settings} {settings : Settings} :
    checked path read = .ok settings ↔ read = some settings ∧ settings.fault? = none := by
  unfold checked
  grind

/-! ## Fields of sections -/

structure SettingField where
  outer : RecordField Settings
  inner : RecordField outer.Value

namespace SettingField

def path (field : SettingField) : List String := [field.outer.key, field.inner.key]

def place (field : SettingField) : String := dottedPlace field.outer.key field.inner.key

def get (field : SettingField) (settings : Settings) : field.inner.Value :=
  field.inner.get (field.outer.get settings)

def IsGivenBy (field : SettingField) (settings : Settings) (value : Option Toml) : Prop :=
  ReadsAs (value.map Toml.toJson) (field.get {}) (field.get settings)

def all : List SettingField :=
  PolicySettings.fields.map (mk ⟨"policy", Settings.policy⟩) ++
    WalletSettings.fields.map (mk ⟨"wallet", Settings.wallet⟩) ++
    ApprovalSettings.fields.map (mk ⟨"approval", Settings.approval⟩) ++
    QuoteSettings.fields.map (mk ⟨"quote", Settings.quote⟩) ++
    LoggingSettings.fields.map (mk ⟨"logging", Settings.logging⟩)

/-- There is nothing more to settings than their fields. -/
theorem ext_all {first second : Settings}
    (same : ∀ field ∈ all, field.get first = field.get second) : first = second := by
  simp only [all, List.forall_mem_append, List.forall_mem_map, PolicySettings.fields,
    WalletSettings.fields, ApprovalSettings.fields, QuoteSettings.fields, LoggingSettings.fields,
    List.forall_mem_cons, get] at same
  obtain ⟨⟨_, ⟨_, _, _, _, _, _, _⟩⟩, ⟨_, _, _, _, _⟩, ⟨_, _, _⟩, ⟨_⟩, ⟨_, _, _⟩⟩ := first
  obtain ⟨⟨_, ⟨_, _, _, _, _, _, _⟩⟩, ⟨_, _, _, _, _⟩, ⟨_, _, _⟩, ⟨_⟩, ⟨_, _, _⟩⟩ := second
  simp_all

theorem describes {field : SettingField} (member : field ∈ all) :
    field.outer.Describes {} ∧ field.inner.Describes (field.outer.get {}) := by
  simp only [all, List.mem_append, List.mem_map] at member
  rcases member with (((⟨_, known, rfl⟩ | ⟨_, known, rfl⟩) | ⟨_, known, rfl⟩) | ⟨_, known, rfl⟩) |
    ⟨_, known, rfl⟩
  · exact ⟨Settings.isRecordOf_sections.describes (by simp [Settings.sections]),
      PolicySettings.isRecordOf_fields.describes known⟩
  · exact ⟨Settings.isRecordOf_sections.describes (by simp [Settings.sections]),
      WalletSettings.isRecordOf_fields.describes known⟩
  · exact ⟨Settings.isRecordOf_sections.describes (by simp [Settings.sections]),
      ApprovalSettings.isRecordOf_fields.describes known⟩
  · exact ⟨Settings.isRecordOf_sections.describes (by simp [Settings.sections]),
      QuoteSettings.isRecordOf_fields.describes known⟩
  · exact ⟨Settings.isRecordOf_sections.describes (by simp [Settings.sections]),
      LoggingSettings.isRecordOf_fields.describes known⟩

/-! ## Trees that read as settings -/

variable {field : SettingField} {settings : Settings} {tree : Toml}
  {entries : List (String × Toml)}

theorem read_object : ∀ field ∈ all, ∀ members : List (String × Json),
    (JsonForm.read (.object members) : Option field.inner.Value) = none := by
  simp only [all, List.forall_mem_append, List.forall_mem_map, PolicySettings.fields,
    WalletSettings.fields, ApprovalSettings.fields, QuoteSettings.fields, LoggingSettings.fields,
    List.forall_mem_cons]
  simp [JsonForm.read, Json.integerIn?]

theorem not_isGivenBy_table (member : field ∈ all) :
    ¬ field.IsGivenBy settings (some (.table entries)) := by
  intro given
  have read : (JsonForm.read (Toml.table entries).toJson : Option field.inner.Value) =
      some (field.get settings) := given
  rw [Toml.toJson, read_object field member] at read
  cases read

theorem isGivenBy_find? (member : field ∈ all) (isOpen : tree.opensTo field.path)
    (read : Settings.ofTree? tree = some settings) :
    field.IsGivenBy settings (tree.find? field.path) := by
  obtain ⟨outer, inner⟩ := describes member
  cases tree with
  | table entries =>
      have outside := outer _ _ read
      rw [Toml.lookup_entriesToJson] at outside
      rw [path, Toml.find?_table_cons]
      cases found : entries.lookup field.outer.key with
      | none =>
          rw [found] at outside
          exact congrArg field.inner.get outside
      | some child =>
          rw [found] at outside
          have childOpen := Toml.opensTo_of_lookup isOpen found
          cases child with
          | table entries =>
              have inside := inner _ _ outside
              rw [Toml.lookup_entriesToJson] at inside
              rw [Option.bind_some, Toml.find?_table_cons]
              cases given : entries.lookup field.inner.key with
              | none => rw [given] at inside; exact inside
              | some value => rw [given] at inside; exact inside
          | _ => cases childOpen
  | _ => cases isOpen

end SettingField

end WalletPolicy
