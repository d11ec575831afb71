import WalletPolicy.Json.Call
import WalletPolicy.Json.Policy
import WalletPolicy.Proofs.Json.Alike
import WalletPolicy.Proofs.Settings.Fields
import WalletPolicy.Proofs.Text.Spellings

namespace WalletPolicy

variable {members : List (String × Json)}

/-! ## Addresses and selectors -/

instance : Lossless Address where
  read_eq {address _} alike := by
    cases alike
    change okOnly (Address.parse address.toHex) = some address
    rw [Address.parse_toHex]
    rfl

instance : Lossless Selector where
  read_eq {selector _} alike := by
    have read : (JsonForm.read _ : Option (List UInt8)) = some selector.toBytes :=
      Lossless.read_eq alike
    change (JsonForm.read _ : Option (List UInt8)).bind Selector.ofBytes? = some selector
    rw [read, Option.bind_some, Selector.ofBytes?_eq_some_iff]

instance : NeverNull Selector := ⟨nofun⟩

/-! ## Actions -/

theorem ProtocolMethod.ofMembers?_of_has {method : ProtocolMethod}
    (has : ∀ member ∈ method.toMembers, Json.Has members member.1 member.2) :
    ofMembers? (.named members) = some method := by
  simp only [toMembers, List.forall_mem_cons] at has
  obtain ⟨protocol, name, -⟩ := has
  simp only [ofMembers?, protocol.getText, name.getText]
  rfl

theorem Swap.ofMembers?_of_has {swap : Swap}
    (has : ∀ member ∈ swap.toMembers, Json.Has members member.1 member.2) :
    ofMembers? (.named members) = some swap := by
  simp only [toMembers, List.forall_mem_cons] at has
  obtain ⟨tokenIn, tokenOut, amountIn, amountOutMin, fee, recipient, commands, payerIsUser,
    isMultiHop, -⟩ := has
  simp only [ofMembers?, tokenIn.get, tokenOut.get, amountIn.get, amountOutMin.get, fee.get,
    recipient.get, commands.get, payerIsUser.get, isMultiHop.get]
  rfl

instance : Lossless Swap :=
  .of_members Swap.toMembers (fun _ => rfl) (fun _ => by simp [Swap.toMembers])
    fun _ _ => Swap.ofMembers?_of_has

namespace Action

def kind : Action → String
  | .transfer => "transfer"
  | .tokenTransfer .. => "token_transfer"
  | .swap _ => "swap"
  | .protocolCall _ => "protocol_call"
  | .unknown => "unknown"

def payload : Action → List (String × Json)
  | .tokenTransfer token recipient amount =>
    [("token", JsonForm.write token), ("recipient", JsonForm.write recipient),
      ("amount", JsonForm.write amount)]
  | .swap details => details.toMembers
  | .protocolCall method => method.toMembers
  | .transfer | .unknown => []

variable {action : Action}

theorem toJson_eq (action : Action) :
    action.toJson = .object (("kind", .text action.kind) :: action.payload) := by
  cases action <;> rfl

theorem distinct_payload (action : Action) :
    ((("kind", Json.text action.kind) :: action.payload).map Prod.fst).Nodup := by
  cases action <;> simp [payload, Swap.toMembers, ProtocolMethod.toMembers]

theorem ofMembers?_of_has
    (has : ∀ member ∈ action.payload, Json.Has members member.1 member.2) :
    ofMembers? action.kind (.named members) = some action := by
  cases action with
  | transfer => rfl
  | tokenTransfer token recipient amount =>
      simp only [payload, List.forall_mem_cons] at has
      obtain ⟨token, recipient, amount, -⟩ := has
      simp only [kind, ofMembers?, token.get, recipient.get, amount.get]
      rfl
  | swap details => exact congrArg (Option.map swap) (Swap.ofMembers?_of_has has)
  | protocolCall method =>
      exact congrArg (Option.map protocolCall) (ProtocolMethod.ofMembers?_of_has has)
  | unknown => rfl

end Action

instance : Lossless Action := by
  refine .of_members _ Action.toJson_eq Action.distinct_payload fun action members has => ?_
  obtain ⟨tag, has⟩ := List.forall_mem_cons.1 has
  change (Json.tagged? "kind" (.object members)).bind _ = _
  rw [Json.tagged?, tag.lookup_text]
  exact Action.ofMembers?_of_has has

instance : Lossless Decoded := by
  refine .of_members _ (fun _ => rfl) (fun _ => by simp) fun decoded members has => ?_
  simp only [List.forall_mem_cons] at has
  obtain ⟨action, isKnown, summary, selector, -⟩ := has
  apply Json.readRecord_object_eq_some_iff.2
  simp only [action.get, isKnown.get, summary.get, selector.get]
  rfl

/-! ## Decisions and limits -/

theorem Decision.read_of_has {variant reason : String}
    (tag : Json.Has members "decision" (.text variant))
    (carried : Json.Has members "reason" (.text reason)) :
    JsonForm.read (.object members) = Decision.ofParts? variant (some (.text reason)) := by
  change ((members.lookup "decision").bind fun found => found.bareVariant?.bind fun variant =>
    Decision.ofParts? variant (members.lookup "reason")) = _
  rw [tag.lookup_text, carried.lookup_text]
  rfl

instance : Lossless Decision where
  read_eq {decision json} alike := by
    cases decision with
    | allow =>
        -- A permission has its tag alone; another member would be taken for a reason.
        obtain ⟨tag, rfl, sameTag⟩ := alike.single
        cases sameTag
        rfl
    | requireApproval reason =>
        obtain ⟨members, rfl, has⟩ := alike.has (by simp)
        simp only [List.forall_mem_cons] at has
        exact Decision.read_of_has has.1 has.2.1
    | deny reason =>
        obtain ⟨members, rfl, has⟩ := alike.has (by simp)
        simp only [List.forall_mem_cons] at has
        exact Decision.read_of_has has.1 has.2.1

namespace LimitViolation

def limit : LimitViolation → String
  | .perTxNative .. => "PerTxNative"
  | .perTxStablecoin .. => "PerTxStablecoin"
  | .dailyNative .. => "DailyNative"
  | .dailyStablecoin .. => "DailyStablecoin"
  | .hourlyRate .. => "HourlyRate"
  | .cooldown _ => "Cooldown"

def figures : LimitViolation → List (String × Json)
  | .perTxNative amount cap | .perTxStablecoin amount cap =>
    [("amount", JsonForm.write amount), ("cap", JsonForm.write cap)]
  | .dailyNative spent amount cap | .dailyStablecoin spent amount cap =>
    [("spent", JsonForm.write spent), ("amount", JsonForm.write amount),
      ("cap", JsonForm.write cap)]
  | .hourlyRate count limit => [("count", JsonForm.write count), ("max", JsonForm.write limit)]
  | .cooldown remainingSecs => [("remaining_secs", JsonForm.write remainingSecs)]

variable {violation : LimitViolation}

theorem toJson_eq (violation : LimitViolation) :
    violation.toJson = .object [(violation.limit, .object violation.figures)] := by
  cases violation <;> rfl

theorem distinct_figures (violation : LimitViolation) :
    (violation.figures.map Prod.fst).Nodup := by
  cases violation <;> simp [figures]

theorem ofMembers?_of_has
    (has : ∀ member ∈ violation.figures, Json.Has members member.1 member.2) :
    ofMembers? violation.limit members = some violation := by
  cases violation with
  | perTxNative | perTxStablecoin =>
      simp only [figures, List.forall_mem_cons] at has
      obtain ⟨amount, cap, -⟩ := has
      simp only [limit, ofMembers?, amount.get, cap.get]
      rfl
  | dailyNative | dailyStablecoin =>
      simp only [figures, List.forall_mem_cons] at has
      obtain ⟨spent, amount, cap, -⟩ := has
      simp only [limit, ofMembers?, spent.get, amount.get, cap.get]
      rfl
  | hourlyRate =>
      simp only [figures, List.forall_mem_cons] at has
      obtain ⟨count, most, -⟩ := has
      simp only [limit, ofMembers?, count.get, most.get]
      rfl
  | cooldown =>
      simp only [figures, List.forall_mem_cons] at has
      obtain ⟨remainingSecs, -⟩ := has
      simp only [limit, ofMembers?, remainingSecs.get]
      rfl

end LimitViolation

instance : Lossless LimitViolation where
  read_eq {violation json} alike := by
    change violation.toJson.Alike json at alike
    rw [LimitViolation.toJson_eq] at alike
    obtain ⟨payload, rfl, sameFigures⟩ := alike.single
    obtain ⟨members, rfl, has⟩ := sameFigures.has violation.distinct_figures
    exact LimitViolation.ofMembers?_of_has has

/-! ## Profiles -/

instance : Lossless Profile := by
  refine .of_members _ (fun _ => rfl) (fun _ => by simp) fun profile members has => ?_
  simp only [List.forall_mem_cons] at has
  obtain ⟨name, perTxNativeCap, dailyNativeCap, perTxStablecoinCap, dailyStablecoinCap, maxTxPerHour,
    minCooldownSecs, maxSlippageBps, -⟩ := has
  apply Json.readRecord_object_eq_some_iff.2
  simp only [name.get, perTxNativeCap.get, dailyNativeCap.get, perTxStablecoinCap.get,
    dailyStablecoinCap.get, maxTxPerHour.get, minCooldownSecs.get, maxSlippageBps.get]
  rfl

instance : Lossless ProfileOverrides := by
  refine .of_members _ (fun _ => rfl) (fun _ => by simp) fun overrides members has => ?_
  simp only [List.forall_mem_cons] at has
  obtain ⟨perTxNativeCap, dailyNativeCap, perTxStablecoinCap, dailyStablecoinCap, maxTxPerHour,
    minCooldownSecs, maxSlippageBps, -⟩ := has
  apply Json.readRecord_object_eq_some_iff.2
  simp only [perTxNativeCap.get, dailyNativeCap.get, perTxStablecoinCap.get, dailyStablecoinCap.get,
    maxTxPerHour.get, minCooldownSecs.get, maxSlippageBps.get]
  rfl

/-! ## Settings -/

theorem IsRecordOf.lossless {Record : Type} [JsonForm Record] {fields : List (RecordField Record)}
    {standard : Record} (isRecord : IsRecordOf fields standard)
    (writes : ∀ record, JsonForm.write record =
      .object (fields.map fun field => (field.key, JsonForm.write (field.get record))))
    (distinct : (fields.map RecordField.key).Nodup)
    (each : ∀ field ∈ fields, Lossless field.Value) : Lossless Record := by
  refine .of_members _ writes (fun record => ?_) fun record members has => ?_
  · rw [List.map_map]
    exact distinct
  · refine (isRecord members record).2 fun field isField => ?_
    have := each field isField
    obtain ⟨found, here, read⟩ := (List.forall_mem_map.1 has field isField).read
    rw [here]
    exact read

instance : Lossless PolicySettings := by
  refine PolicySettings.isRecordOf_fields.lossless (fun _ => rfl) (by decide) ?_
  simp only [PolicySettings.fields, List.forall_mem_cons]
  exact ⟨inferInstance, inferInstance, inferInstance, inferInstance, inferInstance, inferInstance,
    inferInstance, inferInstance, nofun⟩

instance : Lossless WalletSettings := by
  refine WalletSettings.isRecordOf_fields.lossless (fun _ => rfl) (by decide) ?_
  simp only [WalletSettings.fields, List.forall_mem_cons]
  exact ⟨inferInstance, inferInstance, inferInstance, inferInstance, inferInstance, nofun⟩

instance : Lossless ApprovalSettings := by
  refine ApprovalSettings.isRecordOf_fields.lossless (fun _ => rfl) (by decide) ?_
  simp only [ApprovalSettings.fields, List.forall_mem_cons]
  exact ⟨inferInstance, inferInstance, inferInstance, nofun⟩

instance : Lossless QuoteSettings := by
  refine QuoteSettings.isRecordOf_fields.lossless (fun _ => rfl) (by decide) ?_
  simp only [QuoteSettings.fields, List.forall_mem_cons]
  exact ⟨inferInstance, nofun⟩

instance : Lossless LoggingSettings := by
  refine LoggingSettings.isRecordOf_fields.lossless (fun _ => rfl) (by decide) ?_
  simp only [LoggingSettings.fields, List.forall_mem_cons]
  exact ⟨inferInstance, inferInstance, inferInstance, nofun⟩

instance : Lossless Settings := by
  refine Settings.isRecordOf_sections.lossless (fun _ => rfl) (by decide) ?_
  simp only [Settings.sections, List.forall_mem_cons]
  exact ⟨inferInstance, inferInstance, inferInstance, inferInstance, inferInstance, nofun⟩

/-! ## All forms -/

/-- Every value that is written is read back, whatever the order of the members, and what is written
for two actions, decisions or broken limits is alike only if they are the same, so it never is for two
variants of them. -/
theorem Json.forms_lossless :
    (Lossless Action ∧ Lossless Decoded ∧ Lossless Swap ∧ Lossless Decision ∧
      Lossless LimitViolation ∧ Lossless Profile ∧ Lossless ProfileOverrides ∧ Lossless Settings) ∧
    (∀ one two : Action, (JsonForm.write one).Alike (JsonForm.write two) → one = two) ∧
    (∀ one two : Decision, (JsonForm.write one).Alike (JsonForm.write two) → one = two) ∧
    ∀ one two : LimitViolation, (JsonForm.write one).Alike (JsonForm.write two) → one = two := by
  refine ⟨⟨inferInstance, inferInstance, inferInstance, inferInstance, inferInstance, inferInstance,
    inferInstance, inferInstance⟩, ?actions, ?decisions, ?limits⟩
  case actions => exact fun _ _ => Lossless.write_injective
  case decisions => exact fun _ _ => Lossless.write_injective
  case limits => exact fun _ _ => Lossless.write_injective

def shuffledCall : Json :=
  .object [("method", .text "deposit"), ("kind", .text "protocol_call"), ("protocol", .text "WETH")]

theorem Json.forms_lossless_shuffledCall :
    (JsonForm.write (Action.protocolCall ⟨"WETH", "deposit"⟩)).Alike shuffledCall ∧
      JsonForm.read shuffledCall = some (Action.protocolCall ⟨"WETH", "deposit"⟩) ∧
      ¬ (JsonForm.write Action.transfer).Alike (JsonForm.write Action.unknown) := by
  let front : List (String × Json) := [("kind", .text "protocol_call"), ("protocol", .text "WETH")]
  let last : List (String × Json) := [("method", .text "deposit")]
  have order : (front ++ last).Perm (last ++ front) := List.perm_append_comm
  have alike : (JsonForm.write (Action.protocolCall ⟨"WETH", "deposit"⟩)).Alike shuffledCall :=
    .object order rfl (.cons .text (.cons .text (.cons .text .nil)))
  obtain ⟨⟨actions, -⟩, distinct, -⟩ := forms_lossless
  exact ⟨alike, actions.read_eq alike, fun same => nomatch distinct _ _ same⟩

end WalletPolicy
