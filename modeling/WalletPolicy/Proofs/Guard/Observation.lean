import WalletPolicy.Proofs.Guard.Linearization
import WalletPolicy.Proofs.Spending.Refreshing

/-!
# Evaluations that nobody notices

An evaluation looks at the tracker, which may roll over and be pruned at each look. Still no later
answer shows it, also in a session in which evaluations overlap
(`Session.play_filter_of_refreshed_eq`). What an evaluation asks of its source is told by
`Guard.mem_requests_begin_iff`, and what it makes of the answer by `Session.decision_of_request`.
-/

namespace WalletPolicy

open Tracker (Looks looks_const looks_check looks_snapshot)

namespace Guard

variable {guard : Guard} {posture : Posture} {tracker : Tracker} {now : Instant} {intent : Intent}
  {inquiry : Inquiry} {answer : QuoteAnswer} {native stablecoin : UInt64} {recipient : Address}

/-! ## Each step is a look -/

theorem looks_spend : Looks now fun tracker => spend posture tracker now native stablecoin :=
  (looks_check now native stablecoin posture.profile).map Decision.ofSpendCheck

theorem transfer_fst :
    (transfer posture tracker now native stablecoin recipient).1 = tracker.refresh now := by
  unfold transfer Tracker.check
  dsimp only
  split
  · rfl
  · split <;> rfl

theorem looks_transfer :
    Looks now fun tracker => transfer posture tracker now native stablecoin recipient := by
  intro tracker
  constructor
  · rw [transfer_fst, Tracker.refresh_same]
  · simp only [transfer, Tracker.check, Tracker.refresh_same]

theorem looks_beginAction {decoded : Decoded} :
    Looks now fun tracker => guard.beginAction posture tracker now intent decoded := by
  intro tracker
  unfold beginAction
  cases decoded.action with
  | protocolCall method => exact looks_spend.map Progress.decided tracker
  | transfer => exact looks_transfer.map Progress.decided tracker
  | tokenTransfer token recipient amount => exact looks_transfer.map Progress.decided tracker
  | _ => exact ⟨rfl, rfl⟩

theorem looks_begin (guard : Guard) (posture : Posture) (now : Instant) (intent : Intent) :
    Looks now fun tracker => guard.begin posture tracker now intent := by
  intro tracker
  unfold begin
  cases posture.frozen with
  | true => exact ⟨rfl, rfl⟩
  | false =>
      cases BlockedSelector.ofCalldata? intent.calldata with
      | some blocked => exact ⟨rfl, rfl⟩
      | none =>
          dsimp only
          cases unknownReason? (intent.decode guard.registries) with
          | some reason => exact ⟨rfl, rfl⟩
          | none => exact looks_beginAction tracker

theorem looks_resume (guard : Guard) (posture : Posture) (now : Instant) (inquiry : Inquiry)
    (answer : QuoteAnswer) :
    Looks now fun tracker => guard.resume posture tracker now inquiry answer := by
  intro tracker
  unfold resume
  cases refuseZero answer with
  | error e => exact ⟨rfl, rfl⟩
  | ok quote =>
      dsimp only
      cases posture.frozen with
      | true => exact ⟨rfl, rfl⟩
      | false =>
          cases (Slippage.check quote inquiry.swap.amountOutMin
            posture.profile.maxSlippageBps).isWithin with
          | false => exact ⟨rfl, rfl⟩
          | true => exact looks_spend tracker

theorem looks_evaluate (guard : Guard) (posture : Posture) (now : Instant) (intent : Intent) :
    Looks now fun tracker => guard.evaluate posture tracker now intent := by
  have finished (progress : Progress) :
      Looks now fun tracker => guard.finish posture now (tracker, progress) := by
    cases progress with
    | decided decision => exact looks_const decision
    | awaiting inquiry => exact looks_resume guard posture now inquiry (guard.ask inquiry)
  have inTwoSteps (tracker : Tracker) : guard.evaluate posture tracker now intent =
      guard.finish posture now ((guard.begin posture tracker now intent).1,
        (guard.begin posture tracker now intent).2) := by
    rw [evaluate_eq_finish, Prod.mk.eta]
  have both := (looks_begin guard posture now intent).bind finished
  simpa only [inTwoSteps] using both

end Guard

/-! ## Commands -/

def Command.isObservation : Command → Bool
  | .evaluate _ | .decode _ | .snapshot | .check .. | .budgets _ => true
  | .isAllowed _ | .allowlist | .posture => true
  | _ => false

namespace Session

variable {session left right : Session} {intent : Intent} {inquiry : Inquiry} {answer : QuoteAnswer}

def refreshed (session : Session) : Session :=
  { session with tracker := session.tracker.refresh session.now }

@[simp] theorem refreshed_refreshed : session.refreshed.refreshed = session.refreshed := by
  simp only [refreshed, Tracker.refresh_same]

theorem refreshed_with {tracker : Tracker}
    (same : tracker.refresh session.now = session.tracker.refresh session.now) :
    { session with tracker }.refreshed = session.refreshed := by
  simp only [refreshed, same]

theorem begin_refreshed : (session.refreshed.begin intent).2 = (session.begin intent).2 :=
  (Guard.looks_begin session.guard session.posture session.now intent session.tracker).2

theorem refreshed_begin : (session.begin intent).1.refreshed = session.refreshed :=
  refreshed_with (Guard.looks_begin session.guard session.posture session.now intent _).1

theorem resume_refreshed :
    (session.refreshed.resume inquiry answer).2 = (session.resume inquiry answer).2 :=
  (Guard.looks_resume session.guard session.posture session.now inquiry answer session.tracker).2

theorem refreshed_resume : (session.resume inquiry answer).1.refreshed = session.refreshed :=
  refreshed_with (Guard.looks_resume session.guard session.posture session.now inquiry answer _).1

theorem refreshed_step_of_isObservation {command : Command} (observes : command.isObservation = true) :
    (session.step command).1.refreshed = session.refreshed := by
  cases command with
  | evaluate intent =>
      rw [step_evaluate, evaluate_eq]
      exact refreshed_with (Guard.looks_evaluate session.guard session.posture session.now intent _).1
  | snapshot => exact refreshed_with (looks_snapshot session.now _).1
  | check native stablecoin profile =>
      exact refreshed_with
        (looks_check session.now native stablecoin (profile.getD session.posture.profile) _).1
  | decode | budgets | isAllowed | allowlist | posture => rfl
  | _ => cases observes

theorem reply_refreshed (command : Command) :
    (session.refreshed.step command).2 = (session.step command).2 := by
  cases command with
  | evaluate intent =>
      have decided :=
        (Guard.looks_evaluate session.guard session.posture session.now intent session.tracker).2
      simp only [step_evaluate, evaluate_eq, begin_refreshed]
      exact congrArg (Reply.decision · _) decided
  | snapshot => exact congrArg Reply.snapshot (looks_snapshot session.now session.tracker).2
  | check native stablecoin profile =>
      exact congrArg Reply.check (looks_check session.now native stablecoin _ session.tracker).2
  | budgets profile => exact congrArg Reply.budgets Tracker.budgets_refresh
  | _ => rfl

theorem refreshed_step (command : Command)
    (roomy : earliestMillis + hourMillis ≤ session.now.millis)
    (forward : session.now.millis ≤ (session.step command).1.now.millis) :
    (session.refreshed.step command).1.refreshed = (session.step command).1.refreshed := by
  cases observes : command.isObservation with
  | true =>
      rw [refreshed_step_of_isObservation observes, refreshed_step_of_isObservation observes,
        refreshed_refreshed]
  | false =>
      cases command with
      | record native stablecoin => simp only [step, refreshed, Tracker.record_refresh]
      | advance span =>
          have same : (session.tracker.refresh session.now).refresh (session.now.laterOrSame span) =
              session.tracker.refresh (session.now.laterOrSame span) :=
            Tracker.refresh_refresh roomy forward
          simp only [step, refreshed, same]
      | setClock now =>
          have same : (session.tracker.refresh session.now).refresh now = session.tracker.refresh now :=
            Tracker.refresh_refresh roomy forward
          simp only [step, refreshed, same]
      | evaluate | decode | snapshot | check | budgets => cases observes
      | isAllowed | allowlist | posture => cases observes
      | _ => simp only [step, refreshed, Tracker.refresh_same]

end Session

/-! ## Events -/

/-- What happens in a session in which evaluations may overlap: a command, or one of the two steps of
an evaluation. The quote that ends the wait may depend on anything but what the session does. -/
inductive Event where
  | step (command : Command)
  | begin (intent : Intent)
  | resume (inquiry : Inquiry) (answer : QuoteAnswer)

inductive Response where
  | reply (reply : Reply)
  | progress (progress : Progress)
  | decision (decision : Decision)

def Event.isObservation : Event → Bool
  | .step command => command.isObservation
  | .begin _ | .resume .. => true

namespace Session

variable {session left right : Session} {event : Event}

def react (session : Session) : Event → Session × Response
  | .step command =>
    let (session, reply) := session.step command
    (session, .reply reply)
  | .begin intent =>
    let (session, progress) := session.begin intent
    (session, .progress progress)
  | .resume inquiry answer =>
    let (session, decision) := session.resume inquiry answer
    (session, .decision decision)

theorem refreshed_react_of_isObservation (observes : event.isObservation = true) :
    (session.react event).1.refreshed = session.refreshed := by
  cases event with
  | step command => exact refreshed_step_of_isObservation observes
  | begin intent => exact refreshed_begin
  | resume inquiry answer => exact refreshed_resume

theorem response_refreshed : (session.refreshed.react event).2 = (session.react event).2 := by
  cases event with
  | step command => exact congrArg Response.reply (reply_refreshed command)
  | begin intent => exact congrArg Response.progress begin_refreshed
  | resume inquiry answer => exact congrArg Response.decision resume_refreshed

theorem now_react_refreshed : (session.refreshed.react event).1.now = (session.react event).1.now := by
  cases event with
  | step command =>
      cases command with
      | evaluate intent => simp only [react, step_evaluate, evaluate_eq, refreshed]
      | _ => rfl
  | _ => rfl

theorem refreshed_react (roomy : earliestMillis + hourMillis ≤ session.now.millis)
    (forward : session.now.millis ≤ (session.react event).1.now.millis) :
    (session.refreshed.react event).1.refreshed = (session.react event).1.refreshed := by
  cases observes : event.isObservation with
  | true =>
      rw [refreshed_react_of_isObservation observes, refreshed_react_of_isObservation observes,
        refreshed_refreshed]
  | false =>
      cases event with
      | step command => exact refreshed_step command roomy forward
      | begin | resume => cases observes

def IsForward (session : Session) : List Event → Prop
  | [] => True
  | event :: events =>
    session.now.millis ≤ (session.react event).1.now.millis ∧ (session.react event).1.IsForward events

instance decidableIsForward : (session : Session) → (events : List Event) →
    Decidable (session.IsForward events)
  | _, [] => inferInstanceAs (Decidable True)
  | session, event :: events =>
    have := decidableIsForward (session.react event).1 events
    inferInstanceAs (Decidable (_ ∧ _))

def play (session : Session) : List (Bool × Event) → List (Bool × Response)
  | [] => []
  | (mark, event) :: script =>
    (mark, (session.react event).2) :: (session.react event).1.play script

/-- Two sessions that differ only by looks at their trackers respond alike, also when the marked
observations of one are left out of the other. -/
theorem play_filter_of_refreshed_eq {script : List (Bool × Event)}
    (alike : left.refreshed = right.refreshed)
    (observations : ∀ entry ∈ script, entry.1 = true → entry.2.isObservation = true)
    (roomy : earliestMillis + hourMillis ≤ left.now.millis)
    (forward : left.IsForward (script.map (·.2))) :
    (left.play script).filter (!·.1) = right.play (script.filter (!·.1)) := by
  -- Along the script the two sessions stay alike up to a look: a marked event moves only the left one
  -- and is a look itself, any other event moves both.
  induction script generalizing left right with
  | nil => rfl
  | cons entry script ih =>
      obtain ⟨mark, event⟩ := entry
      obtain ⟨order, forward⟩ := forward
      obtain ⟨observes, others⟩ := List.forall_mem_cons.1 observations
      have roomyNext := Int.le_trans roomy order
      cases mark with
      | true =>
          have unchanged : (left.react event).1.refreshed = left.refreshed :=
            refreshed_react_of_isObservation (observes rfl)
          exact ih (unchanged.trans alike) others roomyNext forward
      | false =>
          have sameNow : left.now = right.now := congrArg (·.now) alike
          have sameNext : (left.react event).1.now = (right.react event).1.now := by
            rw [← now_react_refreshed, alike, now_react_refreshed]
          have sameResponse : (left.react event).2 = (right.react event).2 := by
            rw [← response_refreshed, alike, response_refreshed]
          have alikeNext : (left.react event).1.refreshed = (right.react event).1.refreshed := by
            rw [← refreshed_react roomy order, alike,
              refreshed_react (sameNow ▸ roomy) (sameNow ▸ sameNext ▸ order)]
          have later := ih alikeNext others roomyNext forward
          simp only [play, List.filter_cons, Bool.not_false, if_true, later, sameResponse]

end Session

/-! ## Requests for quotes -/

variable {intent : Intent} {request : QuoteRequest} {source other : QuoteSource}

namespace Progress

variable {progress : Progress}

theorem mem_requests_iff :
    request ∈ progress.requests ↔
      ∃ inquiry, progress = .awaiting inquiry ∧ request = inquiry.request := by
  cases progress <;> simp [requests]

theorem length_requests_le : progress.requests.length ≤ 1 := by
  cases progress <;> simp [requests]

end Progress

namespace Guard

variable {guard : Guard} {posture : Posture} {tracker : Tracker} {now : Instant}

theorem mem_requests_begin_iff :
    request ∈ (guard.begin posture tracker now intent).2.requests ↔
      guard.quoteSource.isSome = true ∧ posture.frozen = false ∧
        BlockedSelector.ofCalldata? intent.calldata = none ∧
        ∃ swap, intent.Means guard.registries (.swap swap) ∧ swap.Acceptable guard.wallet ∧
          request = guard.quoteRequest intent swap := by
  simp only [Progress.mem_requests_iff, begin_eq_awaiting_iff, ← Intent.known_decode_iff]
  constructor
  · rintro ⟨inquiry, ⟨thawed, quoted, inquires⟩, rfl⟩
    exact ⟨quoted, thawed, inquires.unblocked, inquiry.swap, ⟨inquires.isKnown, inquires.isSwap⟩,
      inquires.acceptable, inquires.request_eq⟩
  · rintro ⟨quoted, thawed, unblocked, swap, ⟨isKnown, isSwap⟩, acceptable, rfl⟩
    exact ⟨⟨intent, swap, guard.quoteRequest intent swap⟩,
      ⟨thawed, quoted, unblocked, isKnown, isSwap, acceptable, rfl, rfl⟩, rfl⟩

theorem begin_withQuotes (quoted : guard.quoteSource.isSome = true) :
    (guard.withQuotes other).begin posture tracker now intent =
      guard.begin posture tracker now intent := by
  have sameSwap (swap : Swap) :
      (guard.withQuotes other).beginSwap intent swap = guard.beginSwap intent swap := by
    obtain ⟨source, own⟩ := Option.isSome_iff_exists.1 quoted
    simp only [beginSwap, own]
    rfl
  simp only [begin, beginAction, sameSwap]
  rfl

theorem evaluate_withQuotes (own : guard.quoteSource = some source)
    (agree : ∀ request ∈ (guard.begin posture tracker now intent).2.requests,
      other.outcome guard.quoteTimeout request = source.outcome guard.quoteTimeout request) :
    (guard.withQuotes other).evaluate posture tracker now intent =
      guard.evaluate posture tracker now intent := by
  have quoted : guard.quoteSource.isSome = true := by rw [own]; rfl
  rw [evaluate, begin_withQuotes quoted, evaluate]
  rcases begun : guard.begin posture tracker now intent with ⟨next, decision | inquiry⟩
  · rfl
  · have sameAnswer : (guard.withQuotes other).ask inquiry = guard.ask inquiry := by
      rw [begun] at agree
      rw [ask, ask, own]
      exact agree inquiry.request List.mem_cons_self
    dsimp only
    rw [sameAnswer]
    rfl

end Guard

namespace Session

variable {session : Session}

theorem decision_of_request (own : session.guard.quoteSource = some source)
    (requested : request ∈ (session.begin intent).2.requests) :
    ∃ swap, (session.begin intent).2 = .awaiting ⟨intent, swap, request⟩ ∧
      (session.evaluate intent).2 = (session.resume ⟨intent, swap, request⟩
        (source.outcome session.guard.quoteTimeout request)).2 := by
  obtain ⟨inquiry, reached, rfl⟩ := Progress.mem_requests_iff.1 requested
  obtain ⟨-, -, inquires⟩ := Guard.begin_eq_awaiting_iff.1 reached
  obtain ⟨called, swap, request⟩ := inquiry
  obtain rfl : called = intent := inquires.intent_eq
  refine ⟨swap, reached, ?_⟩
  rw [evaluate_of_awaiting (begin_eq_of_awaiting reached), Guard.ask, own]

theorem decision_of_no_request (unasked : (session.begin intent).2.requests = []) :
    (session.begin intent).2 = .decided (session.evaluate intent).2 := by
  rcases begun : session.begin intent with ⟨next, decision | inquiry⟩
  · rw [evaluate_of_decided begun]
  · rw [begun] at unasked
    cases unasked

/-- Looking at a session leaves no trace: on a clock that never goes back the marked observations of
any script can be left out, and every other response stays as it was. An evaluation requests at most
one quote, exactly for a swap that passes every check that needs none. It decides by how that request
ends, or without a request in its first step, and uses nothing else of its source. -/
theorem observations_leave_no_trace (session : Session) :
    (∀ script : List (Bool × Event), earliestMillis + hourMillis ≤ session.now.millis →
      session.IsForward (script.map (·.2)) →
      (∀ entry ∈ script, entry.1 = true → entry.2.isObservation = true) →
      (session.play script).filter (!·.1) = session.play (script.filter (!·.1))) ∧
    ∀ intent, ∃ decision requests,
      (session.step (.evaluate intent)).2 = .decision decision requests ∧ requests.length ≤ 1 ∧
      (∀ request, request ∈ requests ↔
        session.guard.quoteSource.isSome = true ∧ session.posture.frozen = false ∧
          BlockedSelector.ofCalldata? intent.calldata = none ∧
          ∃ swap, intent.Means session.guard.registries (.swap swap) ∧
            swap.Acceptable session.guard.wallet ∧
            request = ⟨session.guard.homeChain.getD intent.chainId, swap.tokenIn, swap.tokenOut,
              swap.amountIn, swap.fee⟩) ∧
      (requests = [] → (session.begin intent).2 = .decided decision) ∧
      (∀ source, session.guard.quoteSource = some source → ∀ request ∈ requests,
        ∃ swap, (session.begin intent).2 = .awaiting ⟨intent, swap, request⟩ ∧
          decision = (session.resume ⟨intent, swap, request⟩
            (source.outcome session.guard.quoteTimeout request)).2) ∧
      ∀ source other, session.guard.quoteSource = some source →
        (∀ request ∈ requests, other.outcome session.guard.quoteTimeout request =
          source.outcome session.guard.quoteTimeout request) →
        ((session.withQuotes other).evaluate intent).2 = decision := by
  constructor
  · intro script roomy forward observations
    exact play_filter_of_refreshed_eq rfl observations roomy forward
  · intro intent
    refine ⟨_, _, congrArg (·.2) step_evaluate, Progress.length_requests_le,
      fun request => Guard.mem_requests_begin_iff, decision_of_no_request,
      fun source own request requested => decision_of_request own requested,
      fun source other own agree => ?_⟩
    rw [decision_evaluate_withQuotes, Guard.evaluate_withQuotes own agree, evaluate_eq]

def watchedDay : List (Bool × Event) :=
  [(true, .begin cheapSwap.intent),
    (false, .step (.record 10000000000000000 0)),
    (true, .step .snapshot),
    (true, .resume cheapSwap (.ok 1000000)),
    (false, .step (.advance dayMillis)),
    (true, .step (.evaluate cheapSwap.intent)),
    (true, .step (.budgets none)),
    (false, .step .snapshot),
    (false, .step (.evaluate cheapSwap.intent))]

theorem play_watchedDay :
    (quoted.play watchedDay).filter (!·.1) = quoted.play (watchedDay.filter (!·.1)) ∧
      ∃ requests, (quoted.step (.evaluate cheapSwap.intent)).2 = .decision .allow requests ∧
        cheapSwap.request ∈ requests := by
  obtain ⟨unnoticed, quotes⟩ := observations_leave_no_trace quoted
  refine ⟨unnoticed watchedDay (by decide +kernel) (by decide +kernel) (by decide +kernel), ?_⟩
  obtain ⟨decision, requests, replied, -, exact, -, asked, -⟩ := quotes cheapSwap.intent
  have means : cheapSwap.intent.Means quoted.guard.registries (.swap cheapSwap.swap) :=
    Intent.known_decode_iff.1 ⟨by decide +kernel, by decide +kernel⟩
  have acceptable : cheapSwap.swap.Acceptable quoted.guard.wallet :=
    Swap.objection?_eq_none_iff.1 (by decide +kernel)
  have requested : cheapSwap.request ∈ requests :=
    (exact _).2 ⟨rfl, rfl, by decide +kernel, cheapSwap.swap, means, acceptable, rfl⟩
  obtain ⟨swap, reached, decided⟩ := asked promptQuotes rfl _ requested
  have begun : (quoted.begin cheapSwap.intent).2 = .awaiting cheapSwap := by decide +kernel
  obtain rfl : cheapSwap.swap = swap :=
    congrArg Inquiry.swap (Progress.awaiting.inj (begun.symm.trans reached))
  have allowed : decision = .allow := decided.trans (by decide +kernel)
  exact ⟨requests, allowed ▸ replied, requested⟩

end Session

end WalletPolicy
