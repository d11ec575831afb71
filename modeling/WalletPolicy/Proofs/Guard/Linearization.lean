import Mathlib.Logic.Basic
import WalletPolicy.Guard.Session
import WalletPolicy.Proofs.Guard.Authorization

/-!
# Evaluations that wait for a quote

What the first step of an evaluation hands over does not depend on anything that a command can
change: `Guard.Inquires` names only the guard and the call. So the commands in between do not matter
(`Session.resume_eq_evaluate`).
-/

namespace WalletPolicy

namespace Guard

variable {guard : Guard} {posture : Posture} {tracker : Tracker} {now : Instant} {intent : Intent}
  {inquiry : Inquiry} {source : QuoteSource} {answer : QuoteAnswer}

/-! ## The first step -/

structure Inquires (guard : Guard) (intent : Intent) (inquiry : Inquiry) : Prop where
  unblocked : BlockedSelector.ofCalldata? intent.calldata = none
  isKnown : (intent.decode guard.registries).isKnown = true
  isSwap : (intent.decode guard.registries).action = .swap inquiry.swap
  acceptable : inquiry.swap.Acceptable guard.wallet
  intent_eq : inquiry.intent = intent
  request_eq : inquiry.request = guard.quoteRequest intent inquiry.swap

theorem beginSwap_eq_awaiting_iff {swap : Swap} :
    guard.beginSwap intent swap = .awaiting inquiry ↔
      swap.Acceptable guard.wallet ∧ guard.quoteSource.isSome = true ∧
        inquiry = ⟨intent, swap, guard.quoteRequest intent swap⟩ := by
  rw [← Swap.objection?_eq_none_iff]
  unfold beginSwap
  cases swap.objection? guard.wallet with
  | some reason => simp
  | none => cases guard.quoteSource <;> simp [eq_comm]

theorem beginAction_eq_awaiting_iff {decoded : Decoded} :
    (guard.beginAction posture tracker now intent decoded).2 = .awaiting inquiry ↔
      ∃ swap, decoded.action = .swap swap ∧ guard.beginSwap intent swap = .awaiting inquiry := by
  unfold beginAction
  cases decoded.action <;> simp

theorem begin_of_isKnown (thawed : posture.frozen = false)
    (unblocked : BlockedSelector.ofCalldata? intent.calldata = none)
    (isKnown : (intent.decode guard.registries).isKnown = true) :
    guard.begin posture tracker now intent =
      guard.beginAction posture tracker now intent (intent.decode guard.registries) := by
  simp only [begin, thawed, unblocked, unknownReason?_eq_none_iff.2 isKnown, Bool.false_eq_true,
    if_false]

theorem begin_eq_awaiting_iff :
    (guard.begin posture tracker now intent).2 = .awaiting inquiry ↔
      posture.frozen = false ∧ guard.quoteSource.isSome = true ∧ guard.Inquires intent inquiry := by
  constructor
  · -- Every other way through the first step ends in a decision.
    intro reached
    rw [begin] at reached
    split at reached
    · cases reached
    · rename_i thawed
      split at reached
      · cases reached
      · rename_i unblocked
        dsimp only at reached
        split at reached
        · cases reached
        · rename_i understood
          obtain ⟨swap, isSwap, reached⟩ := beginAction_eq_awaiting_iff.1 reached
          obtain ⟨acceptable, quoted, rfl⟩ := beginSwap_eq_awaiting_iff.1 reached
          exact ⟨eq_false_of_ne_true thawed, quoted, unblocked,
            unknownReason?_eq_none_iff.1 understood, isSwap, acceptable, rfl, rfl⟩
  · rintro ⟨thawed, quoted, unblocked, isKnown, isSwap, acceptable, rfl, made⟩
    rw [begin_of_isKnown thawed unblocked isKnown, beginAction_eq_awaiting_iff]
    exact ⟨_, isSwap, beginSwap_eq_awaiting_iff.2 ⟨acceptable, quoted, by rw [← made]⟩⟩

theorem Inquires.begin_eq (inquires : guard.Inquires intent inquiry)
    (quoted : guard.quoteSource.isSome = true) (thawed : posture.frozen = false) :
    guard.begin posture tracker now intent = (tracker, .awaiting inquiry) := by
  refine Prod.ext ?_ (begin_eq_awaiting_iff.2 ⟨thawed, quoted, inquires⟩)
  rw [begin_of_isKnown thawed inquires.unblocked inquires.isKnown, beginAction, inquires.isSwap]

theorem begin_of_frozen (frozen : posture.frozen = true) :
    guard.begin posture tracker now intent = (tracker, .decided (.deny frozenReason)) := by
  rw [begin, if_pos frozen]

/-! ## The second step -/

theorem resume_of_error {e : QuoteError} (failed : refuseZero answer = .error e) :
    guard.resume posture tracker now inquiry answer = (tracker, .ofQuoteError e) := by
  rw [resume, failed]

theorem resume_of_frozen {quote : UInt64} (given : refuseZero answer = .ok quote)
    (frozen : posture.frozen = true) :
    guard.resume posture tracker now inquiry answer = (tracker, .deny frozenReason) := by
  rw [resume, given]
  exact if_pos frozen

/-! ## Both at once -/

def withQuotes (guard : Guard) (source : QuoteSource) : Guard :=
  { guard with quoteSource := some source }

theorem Inquires.withQuotes (inquires : guard.Inquires intent inquiry) :
    (guard.withQuotes source).Inquires intent inquiry :=
  ⟨inquires.unblocked, inquires.isKnown, inquires.isSwap, inquires.acceptable, inquires.intent_eq,
    inquires.request_eq⟩

theorem Inquires.evaluate_eq (inquires : guard.Inquires intent inquiry)
    (delivered : source.outcome guard.quoteTimeout inquiry.request = answer)
    (thawed : posture.frozen = false) :
    (guard.withQuotes source).evaluate posture tracker now intent =
      guard.resume posture tracker now inquiry answer := by
  rw [evaluate, inquires.withQuotes.begin_eq rfl thawed, ← delivered]
  rfl

theorem Inquires.evaluate_eq_of_quote (inquires : guard.Inquires intent inquiry)
    (delivered : source.outcome guard.quoteTimeout inquiry.request = answer) {quote : UInt64}
    (given : refuseZero answer = .ok quote) :
    (guard.withQuotes source).evaluate posture tracker now intent =
      guard.resume posture tracker now inquiry answer := by
  cases frozen : posture.frozen with
  | false => exact inquires.evaluate_eq delivered frozen
  | true => rw [evaluate, begin_of_frozen frozen, resume_of_frozen given frozen]

end Guard

namespace Session

variable {session : Session} {intent : Intent} {inquiry : Inquiry} {source : QuoteSource}
  {answer : QuoteAnswer}

def withQuotes (session : Session) (source : QuoteSource) : Session :=
  { session with guard := session.guard.withQuotes source }

theorem withQuotes_eq (own : session.guard.quoteSource = some source) :
    session.withQuotes source = session := by
  rw [withQuotes, Guard.withQuotes, ← own]

/-! ## Commands in between -/

theorem evaluateAsking_eq :
    session.evaluateAsking intent =
      ((session.evaluate intent).1, (session.evaluate intent).2, (session.begin intent).2.requests) := by
  rw [evaluate, evaluateAsking]
  rcases session.begin intent with ⟨next, decision | inquiry⟩ <;> rfl

theorem evaluate_of_decided {next : Session} {decision : Decision}
    (begun : session.begin intent = (next, .decided decision)) :
    session.evaluate intent = (next, decision) := by
  rw [evaluate, evaluateAsking, begun]

theorem evaluate_of_awaiting {next : Session}
    (begun : session.begin intent = (next, .awaiting inquiry)) :
    session.evaluate intent = next.resume inquiry (next.guard.ask inquiry) := by
  rw [evaluate, evaluateAsking, begun]

theorem evaluate_eq :
    session.evaluate intent =
      ({ session with
          tracker :=
            (session.guard.evaluate session.posture session.tracker session.now intent).1 },
        (session.guard.evaluate session.posture session.tracker session.now intent).2) := by
  unfold evaluate evaluateAsking begin Guard.evaluate
  rcases session.guard.begin session.posture session.tracker session.now intent with
    ⟨tracker, decision | inquiry⟩ <;> rfl

theorem step_evaluate : session.step (.evaluate intent) =
    ((session.evaluate intent).1,
      .decision (session.evaluate intent).2 (session.begin intent).2.requests) := by
  rw [step, evaluateAsking_eq]

theorem guard_begin : (session.begin intent).1.guard = session.guard := rfl

theorem guard_step (command : Command) : (session.step command).1.guard = session.guard := by
  cases command with
  | evaluate intent => rw [step_evaluate, evaluate_eq]
  | _ => rfl

theorem guard_run (commands : List Command) : (session.run commands).1.guard = session.guard := by
  induction commands generalizing session with
  | nil => rfl
  | cons command commands ih => exact ih.trans (guard_step command)

/-! ## The decision -/

theorem decision_evaluate_withQuotes :
    ((session.withQuotes source).evaluate intent).2 =
      ((session.guard.withQuotes source).evaluate session.posture session.tracker session.now
        intent).2 := by
  rw [evaluate_eq]
  rfl

theorem decision_resume :
    (session.resume inquiry answer).2 =
      (session.guard.resume session.posture session.tracker session.now inquiry answer).2 :=
  rfl

section Delivered

variable (inquires : session.guard.Inquires intent inquiry)
  (delivered : source.outcome session.guard.quoteTimeout inquiry.request = answer)
include inquires delivered

theorem decision_resume_of_quote {quote : UInt64} (given : refuseZero answer = .ok quote) :
    (session.resume inquiry answer).2 = ((session.withQuotes source).evaluate intent).2 := by
  rw [decision_evaluate_withQuotes, inquires.evaluate_eq_of_quote delivered given, decision_resume]

theorem decision_evaluate_of_error {e : QuoteError} (failed : refuseZero answer = .error e)
    (thawed : session.posture.frozen = false) :
    ((session.withQuotes source).evaluate intent).2 = .ofQuoteError e := by
  rw [decision_evaluate_withQuotes, inquires.evaluate_eq delivered thawed,
    Guard.resume_of_error failed]

end Delivered

theorem decision_resume_of_error {e : QuoteError} (failed : refuseZero answer = .error e) :
    (session.resume inquiry answer).2 = .ofQuoteError e := by
  rw [decision_resume, Guard.resume_of_error failed]

/-- An evaluation that waits for its quote decides as if all of it happened at once: with the quote
in hand at the end of the wait, and without one at its beginning. It allows nothing but what the
posture, the tracker and the clock at the end of the wait grant. -/
theorem resume_eq_evaluate (session : Session) (commands : List Command) (source : QuoteSource)
    {intent : Intent} {inquiry : Inquiry} {answer : QuoteAnswer}
    (reached : (session.begin intent).2 = .awaiting inquiry)
    (delivered : source.outcome session.guard.quoteTimeout inquiry.request = answer) :
    let resumed := ((session.begin intent).1.run commands).1
    let decision := (resumed.resume inquiry answer).2
    (∀ quote, answer = .ok quote → quote ≠ 0 →
      decision = ((resumed.withQuotes source).evaluate intent).2) ∧
    ((∀ quote, answer = .ok quote → quote = 0) →
      decision = ((session.withQuotes source).evaluate intent).2) ∧
    (decision = .allow → resumed.posture.frozen = false ∧ ∃ quote, answer = .ok quote ∧ quote ≠ 0 ∧
      Slippage.points quote inquiry.swap.amountOutMin ≤ resumed.posture.profile.maxSlippageBps ∧
      Guard.Affordable resumed.posture resumed.tracker resumed.now intent.value
        (resumed.guard.stablecoinInput intent inquiry.swap)) := by
  intro resumed decision
  obtain ⟨thawed, -, inquires⟩ := Guard.begin_eq_awaiting_iff.1 reached
  have sameGuard : resumed.guard = session.guard := (guard_run commands).trans guard_begin
  refine ⟨fun quote given positive => ?_, fun noQuote => ?_, fun allowed => ?_⟩
  · exact decision_resume_of_quote (sameGuard ▸ inquires) (sameGuard ▸ delivered)
      (Guard.refuseZero_eq_ok_iff.2 ⟨given, positive⟩)
  · cases failed : refuseZero answer with
    | ok quote =>
        obtain ⟨given, positive⟩ := Guard.refuseZero_eq_ok_iff.1 failed
        exact absurd (noQuote quote given) positive
    | error e =>
        rw [decision_evaluate_of_error inquires delivered failed thawed]
        exact decision_resume_of_error failed
  · obtain ⟨stillThawed, quote, given, within, affordable⟩ := Guard.resume_eq_allow_iff.1 allowed
    obtain ⟨given, positive⟩ := Guard.refuseZero_eq_ok_iff.1 given
    rw [inquires.intent_eq] at affordable
    exact ⟨stillThawed, quote, given, positive, within, affordable⟩

def promptQuotes : QuoteSource := ⟨fun _ => .ok 1000000, fun _ => 4000⟩

def quoted : Session :=
  start { Guard.ofProfile .balanced with quoteSource := some promptQuotes }
    (.ofProfile .balanced) .standard .epoch

def cheapSwap : Inquiry where
  intent := ⟨base, default, ProtocolTable.router, 10000000000000000,
    Calldata.nativeSwap senderMarker ProtocolTable.wrappedBase
      (.ofNat 0x833589fcd6edb6e08f4c7c32d4f71b54bda02913) 500 10000000000000000 995000⟩
  swap := {
    tokenIn := ProtocolTable.wrappedBase
    tokenOut := .ofNat 0x833589fcd6edb6e08f4c7c32d4f71b54bda02913
    amountIn := 10000000000000000
    amountOutMin := 995000
    fee := 500
    recipient := senderMarker
    commands := [wrapCommand, swapCommand]
    payerIsUser := false
    isMultiHop := false }
  request := ⟨base, ProtocolTable.wrappedBase,
    .ofNat 0x833589fcd6edb6e08f4c7c32d4f71b54bda02913, 10000000000000000, 500⟩

theorem resume_cheapSwap :
    let tightened : List Command :=
      [.advance 4000, .freeze, .setProfile { Profile.balanced with maxSlippageBps := 49 }, .unfreeze]
    let resumed := ((quoted.begin cheapSwap.intent).1.run tightened).1
    (quoted.evaluate cheapSwap.intent).2 = .allow ∧
      (resumed.evaluate cheapSwap.intent).2 ≠ .allow ∧
      (resumed.resume cheapSwap (.ok 1000000)).2 = (resumed.evaluate cheapSwap.intent).2 := by
  intro tightened resumed
  have reached : (quoted.begin cheapSwap.intent).2 = .awaiting cheapSwap := by decide +kernel
  have delivered : promptQuotes.outcome quoted.guard.quoteTimeout cheapSwap.request =
      .ok 1000000 := rfl
  have atEnd := (resume_eq_evaluate quoted tightened promptQuotes reached delivered).1 1000000 rfl
    (by decide)
  have own : resumed.guard.quoteSource = some promptQuotes := by
    rw [(guard_run tightened).trans guard_begin]
    rfl
  rw [withQuotes_eq own] at atEnd
  exact ⟨by decide +kernel, by decide +kernel, atEnd⟩

/-! ## A command at a given time -/

theorem begin_eq_of_awaiting (reached : (session.begin intent).2 = .awaiting inquiry) :
    session.begin intent = (session, .awaiting inquiry) := by
  obtain ⟨thawed, quoted, inquires⟩ := Guard.begin_eq_awaiting_iff.1 reached
  rw [begin, inquires.begin_eq quoted thawed]

/-- A command that arrives during an evaluation comes, as far as the decision shows, either after or
before it. -/
theorem decision_evaluateAmid (session : Session) (intent : Intent) (after : Nat)
    (command : Command) :
    (session.evaluateAmid intent after command).2 = (session.evaluate intent).2 ∨
      (session.evaluateAmid intent after command).2 =
        ((session.step command).1.evaluate intent).2 := by
  rcases begun : session.begin intent with ⟨next, decision | inquiry⟩
  · left
    rw [evaluateAmid, begun, evaluate_of_decided begun]
  · have reached : (session.begin intent).2 = .awaiting inquiry := by rw [begun]
    obtain rfl : session = next := congrArg (·.1) ((begin_eq_of_awaiting reached).symm.trans begun)
    obtain ⟨thawed, quoted, inquires⟩ := Guard.begin_eq_awaiting_iff.1 reached
    obtain ⟨source, own⟩ := Option.isSome_iff_exists.1 quoted
    have delivered : source.outcome session.guard.quoteTimeout inquiry.request =
        session.guard.ask inquiry := by rw [Guard.ask, own]
    rw [evaluateAmid, begun]
    dsimp only
    split
    · -- The command comes first, so the quote decides on which side of it the evaluation is.
      have sameGuard : (session.step command).1.guard = session.guard := guard_step command
      cases quote : refuseZero (session.guard.ask inquiry) with
      | ok quote =>
          right
          have later : ((session.step command).1.resume inquiry (session.guard.ask inquiry)).2 =
              (((session.step command).1.withQuotes source).evaluate intent).2 :=
            decision_resume_of_quote (sameGuard ▸ inquires) (by rw [sameGuard, delivered]) quote
          rw [later, withQuotes_eq (sameGuard ▸ own)]
      | error e =>
          left
          have atOnce := decision_evaluate_of_error inquires delivered quote thawed
          rw [withQuotes_eq own] at atOnce
          rw [decision_resume_of_error quote, atOnce]
    · left
      rw [evaluate_of_awaiting begun]

end Session

end WalletPolicy
