import WalletPolicy.Proofs.Approval.Archive

/-!
# How often a code can be guessed

Every guess goes into the record of failures, and while the record of the last window is full
nothing is tested. So a window of time, wherever it lies, has room for no more guesses than the
limits allow failures (`ApprovalDesk.guesses_le`). The desk forgets failures as it goes, so the
argument is made on its archive.
-/

namespace WalletPolicy

def ApprovalOutcome.isInvalid : ApprovalOutcome → Bool
  | .invalid _ => true
  | _ => false

namespace Exchange

def isGuess (exchange : ApprovalExchange) : Bool :=
  match exchange.answer with
  | .verified outcome => outcome.isInvalid
  | _ => false

def isLaterThan (cutoff : Int) (exchange : ApprovalExchange) : Bool :=
  cutoff < exchange.time.millis

end Exchange

def guessesWithin (start length : Int) (log : List ApprovalExchange) : Nat :=
  log.countP fun exchange =>
    exchange.isGuess && exchange.isLaterThan start && !exchange.isLaterThan (start + length)

namespace ApprovalArchive

variable {archive : ApprovalArchive} {limits : ApprovalLimits} {now : Instant} {code : String}
  {intentDigest : Digest} {exchange : ApprovalExchange} {log : List ApprovalExchange}

/-! ## One call -/

theorem failures_settle {entry : ArchivedApproval} :
    (archive.settle limits now code entry intentDigest).1.failures =
      if (archive.settle limits now code entry intentDigest).2.isInvalid then
        now :: archive.failures
      else archive.failures := by
  unfold settle
  repeat' split
  all_goals first
    | rfl
    | simp_all [ApprovalOutcome.isInvalid, ApprovalOutcome.noSuchCode, ApprovalOutcome.otherCall,
        ApprovalOutcome.tooManyAttempts]

theorem failures_verify :
    (archive.verify limits now code intentDigest).1.failures =
      if (archive.verify limits now code intentDigest).2.isInvalid then now :: archive.failures
      else archive.failures := by
  unfold verify
  split
  · rfl
  · cases archive.find? code with
    | none => rfl
    | some entry => exact failures_settle

theorem recentFailures_lt_of_isInvalid
    (invalid : (archive.verify limits now code intentDigest).2.isInvalid = true) :
    archive.recentFailures now limits.failureWindow < limits.maxGlobalFailures := by
  unfold verify at invalid
  split at invalid
  · cases invalid
  · rename_i few
    exact Nat.lt_of_not_le few

theorem recentFailures_lt_of_isGuess
    (answered : exchange.answer = (respond limits archive exchange.time exchange.call).2)
    (guess : exchange.isGuess = true) :
    archive.recentFailures exchange.time limits.failureWindow < limits.maxGlobalFailures := by
  unfold Exchange.isGuess at guess
  rw [answered] at guess
  cases call : exchange.call with
  | verify code intentDigest =>
      rw [call] at guess
      exact recentFailures_lt_of_isInvalid guess
  | _ => rw [call] at guess; cases guess

def failuresAfter (archive : ApprovalArchive) (cutoff : Int) : Nat :=
  archive.failures.countP fun time => cutoff < time.millis

theorem failuresAfter_le_next (cutoff : Int)
    (answered : exchange.answer = (respond limits archive exchange.time exchange.call).2) :
    archive.failuresAfter cutoff +
        (if exchange.isGuess && exchange.isLaterThan cutoff then 1 else 0) ≤
      ((respond limits).next archive exchange).failuresAfter cutoff := by
  obtain ⟨now, call, answer⟩ := exchange
  dsimp only at answered
  subst answered
  cases call with
  | verify code intentDigest =>
      simp only [Responder.next, respond, failuresAfter, failures_verify, Exchange.isGuess,
        Exchange.isLaterThan]
      by_cases invalid : (archive.verify limits now code intentDigest).2.isInvalid = true
      · simp [invalid, List.countP_cons]
      · simp [invalid]
  | recordFailure code =>
      simp [Responder.next, respond, failuresAfter, recordFailure, Exchange.isGuess,
        List.countP_cons]
  | _ => simp [Responder.next, respond, failuresAfter, issue, Exchange.isGuess]

/-! ## Whole runs -/

theorem countP_isGuess_le (run : (respond limits).IsRun .empty log) (cutoff : Int) :
    log.countP (fun exchange => exchange.isGuess && exchange.isLaterThan cutoff) ≤
      ((respond limits).after .empty log).failuresAfter cutoff := by
  induction log using List.reverseRecOn with
  | nil => exact Nat.zero_le _
  | append_singleton earlier exchange ih =>
      rw [Responder.after_append_singleton, List.countP_append, List.countP_singleton]
      have step := failuresAfter_le_next cutoff run.answer_eq
      have before := ih run.of_append
      omega

/-- The last guess of a window finds all the others of that window in the record. -/
theorem guessesWithin_le (run : (respond limits).IsRun .empty log) (start : Int) :
    guessesWithin start limits.failureWindow log ≤ limits.maxGlobalFailures := by
  induction log using List.reverseRecOn with
  | nil => exact Nat.zero_le _
  | append_singleton earlier exchange ih =>
      have before := ih run.of_append
      unfold guessesWithin at before ⊢
      rw [List.countP_append, List.countP_singleton]
      split
      · rename_i isWithin
        simp only [Bool.and_eq_true, Bool.not_eq_true'] at isWithin
        obtain ⟨⟨guess, -⟩, inTime⟩ := isWithin
        have few := recentFailures_lt_of_isGuess run.answer_eq guess
        have recorded := countP_isGuess_le run.of_append start
        have stillCount :
            ((respond limits).after .empty earlier).failuresAfter start ≤
              ((respond limits).after .empty earlier).recentFailures exchange.time
                limits.failureWindow := by
          apply List.countP_mono_left
          intro time _ later
          simp only [Exchange.isLaterThan, decide_eq_false_iff_not, decide_eq_true_eq] at *
          omega
        have subset : earlier.countP (fun exchange => exchange.isGuess &&
              exchange.isLaterThan start &&
              !exchange.isLaterThan (start + limits.failureWindow)) ≤
            earlier.countP fun exchange => exchange.isGuess && exchange.isLaterThan start := by
          apply List.countP_mono_left
          intro other _ counted
          exact (Bool.and_eq_true_iff.1 counted).1
        omega
      · exact before

end ApprovalArchive

namespace ApprovalDesk

variable {limits : ApprovalLimits} {opened : Instant} {log : List ApprovalExchange}

theorem guesses_le (forward : 0 < limits.failureWindow) (steady : Steady opened log)
    (roomy : ∀ exchange ∈ log,
      earliestMillis + limits.failureWindow ≤ exchange.time.millis)
    (run : respond.IsRun (empty limits) log) (start : Int) :
    guessesWithin start limits.failureWindow log ≤ limits.maxGlobalFailures := by
  have simulation := simulation_archive (Int.le_of_lt forward)
  have archived := (simulation.isRun_iff (mirrors_empty opened) steady roomy).1 run
  exact ApprovalArchive.guessesWithin_le archived start

def patientGuesses : List ApprovalExchange :=
  let clock (second : Fin 120) : Instant :=
    ⟨second * 1000, by unfold earliestMillis; omega, by unfold latestMillis; omega⟩
  [⟨clock 30, .verify "00000001" default, .verified .noSuchCode⟩,
    ⟨clock 60, .verify "00000002" default, .verified .noSuchCode⟩,
    ⟨clock 89, .verify "00000003" default, .verified .tooManyFailures⟩,
    ⟨clock 90, .verify "00000003" default, .verified .noSuchCode⟩]

theorem guesses_patientGuesses :
    respond.IsRun (empty { ApprovalLimits.standard with maxGlobalFailures := 2 }) patientGuesses ∧
      guessesWithin 30000 60000 patientGuesses = 2 ∧
      guessesWithin 30000 60000 patientGuesses ≤ 2 := by
  have run : respond.IsRun
      (empty { ApprovalLimits.standard with maxGlobalFailures := 2 }) patientGuesses :=
    ⟨rfl, rfl, rfl, rfl, trivial⟩
  have steady : Steady .epoch patientGuesses := by decide +kernel
  exact ⟨run, by decide +kernel, guesses_le (by decide) steady (by decide +kernel) run 30000⟩

end ApprovalDesk

end WalletPolicy
