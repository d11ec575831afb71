import WalletPolicy.Proofs.Guard.Linearization

/-!
# Wallets that are frozen while a quote is awaited

The second step of an evaluation looks at the posture again only when it has a quote. Without one a
freeze is overlooked, and a human is asked as if the wallet had never been frozen.
-/

namespace WalletPolicy

theorem Decision.ofQuoteError_ne_deny {e : QuoteError} {reason : String} :
    Decision.ofQuoteError e ≠ .deny reason := by
  simp [Decision.ofQuoteError]

namespace Session

variable {session : Session} {intent : Intent} {inquiry : Inquiry} {source : QuoteSource}
  {answer : QuoteAnswer}

theorem decision_resume_of_frozen {quote : UInt64} (given : refuseZero answer = .ok quote)
    (frozen : session.posture.frozen = true) :
    (session.resume inquiry answer).2 = .deny frozenReason := by
  rw [decision_resume, Guard.resume_of_frozen given frozen]

/-- A wallet that is frozen when the wait for a quote ends refuses exactly when there is a positive
quote. Otherwise a human is asked, as in an evaluation at the beginning of the wait. -/
theorem refuses_frozen_iff (session : Session) (commands : List Command) (source : QuoteSource)
    {intent : Intent} {inquiry : Inquiry} {answer : QuoteAnswer}
    (reached : (session.begin intent).2 = .awaiting inquiry)
    (delivered : source.outcome session.guard.quoteTimeout inquiry.request = answer)
    (frozen : ((session.begin intent).1.run commands).1.posture.frozen = true) :
    let decision := (((session.begin intent).1.run commands).1.resume inquiry answer).2
    (decision = .deny frozenReason ↔ ∃ quote, answer = .ok quote ∧ quote ≠ 0) ∧
    ((∀ quote, answer = .ok quote → quote = 0) → decision.requiresApproval = true ∧
      decision = ((session.withQuotes source).evaluate intent).2) := by
  intro decision
  obtain ⟨thawed, -, inquires⟩ := Guard.begin_eq_awaiting_iff.1 reached
  -- Only with a quote does the second step get as far as the posture.
  cases quoted : refuseZero answer with
  | ok quote =>
      have given := Guard.refuseZero_eq_ok_iff.1 quoted
      have refused : decision = .deny frozenReason := decision_resume_of_frozen quoted frozen
      exact ⟨iff_of_true refused ⟨quote, given⟩, fun noQuote => absurd (noQuote quote given.1) given.2⟩
  | error e =>
      have asked : decision = .ofQuoteError e := decision_resume_of_error quoted
      have unquoted : ¬ ∃ quote, answer = .ok quote ∧ quote ≠ 0 := by
        rintro ⟨quote, given⟩
        rw [Guard.refuseZero_eq_ok_iff.2 given] at quoted
        cases quoted
      refine ⟨iff_of_false (fun refused => ?_) unquoted, fun _ => ⟨?_, ?_⟩⟩
      · exact Decision.ofQuoteError_ne_deny (asked.symm.trans refused)
      · rw [asked]
        rfl
      · rw [asked, decision_evaluate_of_error inquires delivered quoted thawed]

theorem refuses_frozen_cheapSwap :
    ((quoted.run [.advance 2000, .freeze]).1.resume cheapSwap (.ok 1000000)).2 =
      .deny frozenReason := by
  have reached : (quoted.begin cheapSwap.intent).2 = .awaiting cheapSwap := by decide +kernel
  have delivered : promptQuotes.outcome quoted.guard.quoteTimeout cheapSwap.request =
      .ok 1000000 := rfl
  have refused := refuses_frozen_iff quoted [.advance 2000, .freeze] promptQuotes reached delivered rfl
  rw [begin_eq_of_awaiting reached] at refused
  exact refused.1.2 ⟨1000000, rfl, by decide⟩

def overdue : Session := quoted.withQuotes ⟨fun _ => .ok 1000000, fun _ => 6000⟩

/-- A freeze one second after the request of a quote that never comes is not answered with a
refusal. -/
theorem evaluateAmid_overdue_freeze :
    overdue.posture.frozen = false ∧
      (overdue.begin cheapSwap.intent).2 = .awaiting cheapSwap ∧
      1000 < overdue.guard.waiting cheapSwap ∧
      (overdue.step .freeze).1.posture.frozen = true ∧
      (overdue.evaluateAmid cheapSwap.intent 1000 .freeze).2 = .ofQuoteError (.timeout 5000) ∧
      (overdue.evaluateAmid cheapSwap.intent 1000 .freeze).2.isDenied = false := by
  have reached : (overdue.begin cheapSwap.intent).2 = .awaiting cheapSwap := by decide +kernel
  have waits : 1000 < overdue.guard.waiting cheapSwap := by decide
  have asked : (overdue.evaluateAmid cheapSwap.intent 1000 .freeze).2 =
      .ofQuoteError (.timeout 5000) := by
    rw [evaluateAmid, begin_eq_of_awaiting reached]
    dsimp only
    rw [if_pos waits]
    exact decision_resume_of_error rfl
  refine ⟨rfl, reached, waits, rfl, asked, ?_⟩
  rw [asked]
  rfl

end Session

end WalletPolicy
