import Mathlib.Logic.Basic
import Mathlib.Logic.ExistsUnique
import WalletPolicy.Guard.Basic
import WalletPolicy.Proofs.Guard.Decoding
import WalletPolicy.Proofs.Slippage

/-!
# What may be signed without asking

`Guard.Permits` says for each action what has to be granted, and `Guard.evaluate_eq_allow_iff` is
the whole rule.
-/

namespace WalletPolicy

/-! ## The shape of a swap -/

structure Swap.Acceptable (swap : Swap) (wallet : Option Address) : Prop where
  recipient : swap.recipient = senderMarker ∨ wallet = some swap.recipient
  commands : ∀ command ∈ swap.commands, command = swapCommand ∨ command = wrapCommand
  payer : swap.payerIsUser = false ↔ wrapCommand ∈ swap.commands
  singleHop : swap.isMultiHop = false

namespace Swap

variable {swap : Swap} {wallet : Option Address}

theorem paysOutTo_iff :
    swap.paysOutTo wallet = true ↔ swap.recipient = senderMarker ∨ wallet = some swap.recipient := by
  simp only [paysOutTo, Bool.or_eq_true, beq_iff_eq]
  exact or_congr_right eq_comm

theorem disallowedCommands_eq_nil_iff :
    swap.disallowedCommands = [] ↔
      ∀ command ∈ swap.commands, command = swapCommand ∨ command = wrapCommand := by
  simp [disallowedCommands, allowedCommands, or_iff_not_imp_left]

theorem wrapsNative_iff : swap.wrapsNative = true ↔ wrapCommand ∈ swap.commands := by
  simp [wrapsNative]

theorem objection?_eq_none_iff : swap.objection? wallet = none ↔ swap.Acceptable wallet := by
  have gates : swap.objection? wallet = none ↔
      swap.paysOutTo wallet = true ∧ swap.disallowedCommands = [] ∧
        (swap.payerIsUser = false ↔ swap.wrapsNative = true) ∧ swap.isMultiHop = false := by
    unfold objection?
    cases swap.paysOutTo wallet <;> cases swap.disallowedCommands <;> cases swap.wrapsNative <;>
      cases swap.payerIsUser <;> cases swap.isMultiHop <;> simp
  rw [gates, paysOutTo_iff, disallowedCommands_eq_nil_iff, wrapsNative_iff]
  exact ⟨fun h => ⟨h.1, h.2.1, h.2.2.1, h.2.2.2⟩,
    fun h => ⟨h.recipient, h.commands, h.payer, h.singleHop⟩⟩

end Swap

namespace Guard

variable {guard : Guard} {posture : Posture} {tracker : Tracker} {now : Instant} {intent : Intent}

/-! ## Spending -/

def Affordable (posture : Posture) (tracker : Tracker) (now : Instant)
    (native stablecoin : UInt64) : Prop :=
  (tracker.check now native stablecoin posture.profile).2 = .allowed

theorem spend_eq_allow_iff {native stablecoin : UInt64} :
    (spend posture tracker now native stablecoin).2 = .allow ↔
      Affordable posture tracker now native stablecoin := by
  unfold spend Affordable
  dsimp only
  cases (tracker.check now native stablecoin posture.profile).2 <;> simp [Decision.ofSpendCheck]

theorem transfer_eq_allow_iff {native stablecoin : UInt64} {recipient : Address} :
    (transfer posture tracker now native stablecoin recipient).2 = .allow ↔
      Affordable posture tracker now native stablecoin ∧
        (posture.allows recipient = true ∨ (native = 0 ∧ stablecoin = 0)) := by
  unfold transfer Affordable
  dsimp only
  cases (tracker.check now native stablecoin posture.profile).2 with
  | denied violation => simp [Decision.ofSpendCheck]
  | allowed =>
      dsimp only
      split <;> rename_i granted <;> simpa using granted

/-! ## Quotes -/

def Quotes (guard : Guard) (request : QuoteRequest) (quote : UInt64) : Prop :=
  ∃ source, guard.quoteSource = some source ∧
    (source.delay request).toNat ≤ guard.quoteTimeout.toNat ∧
    source.answer request = .ok quote ∧ quote ≠ 0

theorem refuseZero_eq_ok_iff {answer : QuoteAnswer} {quote : UInt64} :
    refuseZero answer = .ok quote ↔ answer = .ok quote ∧ quote ≠ 0 := by
  cases answer with
  | error e => simp [refuseZero]
  | ok given =>
      simp only [refuseZero]
      split
      · rename_i zero
        simp [zero, eq_comm]
      · rename_i positive
        simp only [Except.ok.injEq, iff_self_and]
        rintro rfl
        exact positive

theorem refuseZero_ask_eq_ok_iff {inquiry : Inquiry} {quote : UInt64} :
    refuseZero (guard.ask inquiry) = .ok quote ↔ guard.Quotes inquiry.request quote := by
  rw [refuseZero_eq_ok_iff, ask, Quotes]
  cases guard.quoteSource with
  | none => simp
  | some source =>
      simp only [QuoteSource.outcome, Option.some.injEq, exists_eq_left']
      split <;> rename_i inTime <;> simp [inTime]

/-! ## Permission -/

def stablecoinInput (guard : Guard) (intent : Intent) (swap : Swap) : UInt64 :=
  if guard.registries.isStablecoin intent.chainId swap.tokenIn then swap.amountIn else 0

def Permits (guard : Guard) (posture : Posture) (tracker : Tracker) (now : Instant)
    (intent : Intent) : Action → Prop
  | .transfer =>
    Affordable posture tracker now intent.value 0 ∧
      (posture.allows intent.target = true ∨ intent.value = 0)
  | .tokenTransfer _ recipient amount =>
    Affordable posture tracker now intent.value amount ∧
      (posture.allows recipient = true ∨ (intent.value = 0 ∧ amount = 0))
  | .swap details =>
    details.Acceptable guard.wallet ∧
      ∃ quote, guard.Quotes (guard.quoteRequest intent details) quote ∧
        Slippage.points quote details.amountOutMin ≤ posture.profile.maxSlippageBps ∧
        Affordable posture tracker now intent.value (guard.stablecoinInput intent details)
  | .protocolCall _ => Affordable posture tracker now intent.value 0
  | .unknown => False

theorem resume_eq_allow_iff {inquiry : Inquiry} {answer : QuoteAnswer} :
    (guard.resume posture tracker now inquiry answer).2 = .allow ↔
      posture.frozen = false ∧ ∃ quote, refuseZero answer = .ok quote ∧
        Slippage.points quote inquiry.swap.amountOutMin ≤ posture.profile.maxSlippageBps ∧
        Affordable posture tracker now inquiry.intent.value
          (guard.stablecoinInput inquiry.intent inquiry.swap) := by
  unfold resume
  cases refuseZero answer with
  | error e => simp [Decision.ofQuoteError]
  | ok quote =>
      simp only [Except.ok.injEq, exists_eq_left', ← Slippage.isWithin_check_iff,
        ← spend_eq_allow_iff, stablecoinInput]
      cases posture.frozen with
      | true => simp
      | false =>
          cases (Slippage.check quote inquiry.swap.amountOutMin
            posture.profile.maxSlippageBps).isWithin <;> simp

def finish (guard : Guard) (posture : Posture) (now : Instant) :
    Tracker × Progress → Tracker × Decision
  | (tracker, .decided decision) => (tracker, decision)
  | (tracker, .awaiting inquiry) => guard.resume posture tracker now inquiry (guard.ask inquiry)

theorem evaluate_eq_finish :
    guard.evaluate posture tracker now intent =
      guard.finish posture now (guard.begin posture tracker now intent) := by
  unfold evaluate finish
  rcases guard.begin posture tracker now intent with ⟨tracker, decision | inquiry⟩ <;> rfl

theorem finish_beginSwap_eq_allow_iff {swap : Swap} (thawed : posture.frozen = false) :
    (guard.finish posture now (tracker, guard.beginSwap intent swap)).2 = .allow ↔
      guard.Permits posture tracker now intent (.swap swap) := by
  rw [Permits, ← Swap.objection?_eq_none_iff]
  unfold beginSwap
  cases swap.objection? guard.wallet with
  | some reason => simp [finish]
  | none =>
      cases source : guard.quoteSource with
      | none => simp [finish, Quotes, source, Decision.ofQuoteError]
      | some quotes => simp [finish, resume_eq_allow_iff, refuseZero_ask_eq_ok_iff, thawed]

theorem finish_beginAction_eq_allow_iff {decoded : Decoded} (thawed : posture.frozen = false) :
    (guard.finish posture now (guard.beginAction posture tracker now intent decoded)).2 = .allow ↔
      guard.Permits posture tracker now intent decoded.action := by
  unfold beginAction
  cases decoded.action with
  | swap details => exact finish_beginSwap_eq_allow_iff thawed
  | protocolCall method => simpa [finish, Permits] using spend_eq_allow_iff
  | transfer =>
      have rule := @transfer_eq_allow_iff posture tracker now intent.value 0 intent.target
      simpa [finish, Permits] using rule
  | tokenTransfer token recipient amount => simpa [finish, Permits] using transfer_eq_allow_iff
  | unknown => simp [finish, Permits]

theorem unknownReason?_eq_none_iff {decoded : Decoded} :
    unknownReason? decoded = none ↔ decoded.isKnown = true := by
  unfold unknownReason?
  split
  · rename_i known
    simp [known]
  · rename_i unknown
    split <;> simp [unknown]

theorem evaluate_eq_allow_iff_of_decode :
    (guard.evaluate posture tracker now intent).2 = .allow ↔
      posture.frozen = false ∧ BlockedSelector.ofCalldata? intent.calldata = none ∧
        (intent.decode guard.registries).isKnown = true ∧
        guard.Permits posture tracker now intent (intent.decode guard.registries).action := by
  rw [evaluate_eq_finish, begin]
  cases thawed : posture.frozen with
  | true => simp [finish]
  | false =>
      cases BlockedSelector.ofCalldata? intent.calldata with
      | some blocked => simp [finish]
      | none =>
          simp only [← unknownReason?_eq_none_iff]
          cases unknownReason? (intent.decode guard.registries) with
          | some reason => simp [finish]
          | none => simpa using finish_beginAction_eq_allow_iff thawed

/-- A call is allowed if and only if nothing stops it and it is exactly one permitted action. -/
theorem evaluate_eq_allow_iff (guard : Guard) (posture : Posture) (tracker : Tracker)
    (now : Instant) (intent : Intent) :
    (guard.evaluate posture tracker now intent).2 = .allow ↔
      posture.frozen = false ∧
        (∀ blocked ∈ BlockedSelector.all, ¬ blocked.selector.toBytes <+: intent.calldata) ∧
        ∃! action, intent.Means guard.registries action ∧
          guard.Permits posture tracker now intent action := by
  rw [evaluate_eq_allow_iff_of_decode, BlockedSelector.ofCalldata?_eq_none_iff]
  refine and_congr_right fun _ => and_congr_right fun _ => ?_
  constructor
  · rintro ⟨known, permitted⟩
    have means := Intent.known_decode_iff.1 ⟨known, rfl⟩
    exact ⟨_, ⟨means, permitted⟩, fun other held => held.1.unique means⟩
  · rintro ⟨action, ⟨means, permitted⟩, -⟩
    obtain ⟨known, rfl⟩ := Intent.known_decode_iff.2 means
    exact ⟨known, permitted⟩

end Guard

end WalletPolicy
