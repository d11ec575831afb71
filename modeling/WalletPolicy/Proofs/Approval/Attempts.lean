import WalletPolicy.Proofs.Approval.Listing
import WalletPolicy.Proofs.Settings.Enforcement

/-!
# Used up codes are gone

A failed attempt is counted by one call and tested by another, and an issue starts the count anew.
The count of a waiting code is the number of failed attempts at it since it was issued last
(`ApprovalDesk.countsAttempts_after`), and a code leaves with the attempt that reaches the limit. So
no verification ever finds a used up code.
-/

namespace WalletPolicy

/-! ## Attempts at a code -/

def attemptsSinceIssue (log : List ApprovalExchange) (code : String) : Nat :=
  (log.reverse.takeWhile fun exchange => !exchange.handsOut code).countP (Exchange.fails code)

theorem attemptsSinceIssue_snoc {log : List ApprovalExchange} {exchange : ApprovalExchange}
    {code : String} :
    attemptsSinceIssue (log ++ [exchange]) code =
      if exchange.handsOut code then 0
      else attemptsSinceIssue log code + if exchange.fails code then 1 else 0 := by
  unfold attemptsSinceIssue
  rw [List.reverse_append, List.reverse_singleton, List.singleton_append, List.takeWhile_cons]
  cases exchange.handsOut code with
  | true => rfl
  | false => exact List.countP_cons

namespace ApprovalDesk

variable {desk : ApprovalDesk} {limits : ApprovalLimits} {log : List ApprovalExchange}
  {now : Instant} {code : String} {intentDigest : Digest} {exchange : ApprovalExchange}

/-! ## The count of a waiting code -/

def CountsAttempts (desk : ApprovalDesk) (log : List ApprovalExchange) : Prop :=
  ∀ entry ∈ desk.pending, entry.2.failedAttempts.toNat = attemptsSinceIssue log entry.1

namespace CountsAttempts

theorem forget (counts : desk.CountsAttempts log) {later : ApprovalDesk}
    (fewer : later.pending.Sublist desk.pending)
    (quiet : ∀ code, exchange.handsOut code = false ∧ exchange.fails code = false) :
    later.CountsAttempts (log ++ [exchange]) := by
  intro entry member
  rw [attemptsSinceIssue_snoc, (quiet _).1, (quiet _).2]
  exact counts entry (fewer.subset member)

theorem issue (counts : desk.CountsAttempts log) {intent : Intent} {summary : String} :
    (desk.issue now code intent summary).1.CountsAttempts
      (log ++ [⟨now, .issue code intent summary,
        .issued (desk.issue now code intent summary).2⟩]) := by
  intro entry member
  rw [attemptsSinceIssue_snoc]
  rcases cases_of_mem_issue member with ⟨wasWaiting, notCode⟩ | ⟨isCode, fresh, -⟩
  · have otherCode : Exchange.handsOut entry.1 ⟨now, .issue code intent summary,
        .issued (desk.issue now code intent summary).2⟩ = false :=
      beq_false_of_ne (Ne.symm notCode)
    rw [otherCode]
    exact counts entry wasWaiting
  · have thisCode : Exchange.handsOut entry.1 ⟨now, .issue code intent summary,
        .issued (desk.issue now code intent summary).2⟩ = true :=
      beq_iff_eq.2 isCode.symm
    rw [thisCode, fresh]
    rfl

theorem recordFailure (counts : desk.CountsAttempts log)
    (nodup : (desk.pending.map Prod.fst).Nodup) :
    (desk.recordFailure now code).CountsAttempts
      (log ++ [⟨now, .recordFailure code, .noted⟩]) := by
  intro entry member
  obtain ⟨attempts, wasWaiting, counted⟩ := exists_of_mem_recordFailure nodup member
  have before : attempts.toNat = attemptsSinceIssue log entry.1 := counts _ wasWaiting
  rw [attemptsSinceIssue_snoc, counted, before]
  simp [Exchange.handsOut, Exchange.fails]

theorem next (counts : desk.CountsAttempts log) (nodup : (desk.pending.map Prod.fst).Nodup)
    (answered : exchange.answer = (respond desk exchange.time exchange.call).2) :
    (respond.next desk exchange).CountsAttempts (log ++ [exchange]) := by
  obtain ⟨now, call, answer⟩ := exchange
  dsimp only at answered
  subst answered
  unfold Responder.next
  cases call with
  | issue code intent summary => exact counts.issue
  | verify code intentDigest => exact counts.forget verify_sublist fun _ => ⟨rfl, rfl⟩
  | recordFailure code => exact counts.recordFailure nodup
  | count => exact counts.forget purgeExpired_sublist fun _ => ⟨rfl, rfl⟩
  | list => exact counts.forget purgeExpired_sublist fun _ => ⟨rfl, rfl⟩

end CountsAttempts

theorem countsAttempts_after (positive : 0 < limits.maxFailedPerCode)
    (run : respond.IsRun (empty limits) log) :
    (respond.after (empty limits) log).CountsAttempts log := by
  induction log using List.reverseRecOn with
  | nil => exact fun _ member => absurd member List.not_mem_nil
  | append_singleton earlier exchange ih =>
      rw [Responder.after_append_singleton]
      exact (ih run.of_append).next (wellKept_after positive run.of_append).nodup run.answer_eq

/-! ## Where a code leaves -/

theorem toNat_oneMore_le (attempts : UInt32) : (oneMore attempts).toNat ≤ attempts.toNat + 1 := by
  unfold oneMore
  rw [UInt32.toNat_ofNat_of_lt' (by unfold UInt32.size; omega)]
  exact Nat.min_le_left _ _

theorem attemptsSinceIssue_recordFailure :
    attemptsSinceIssue (log ++ [⟨now, .recordFailure code, .noted⟩]) code =
      attemptsSinceIssue log code + 1 := by
  rw [attemptsSinceIssue_snoc]
  simp [Exchange.handsOut, Exchange.fails]

theorem mem_recordFailure_iff (counts : desk.CountsAttempts log) (kept : desk.WellKept limits log)
    (waits : code ∈ desk.pending.map Prod.fst) :
    code ∈ (desk.recordFailure now code).pending.map Prod.fst ↔
      attemptsSinceIssue (log ++ [⟨now, .recordFailure code, .noted⟩]) code <
        limits.maxFailedPerCode.toNat := by
  constructor
  · intro stillWaits
    obtain ⟨entry, member, rfl⟩ := List.mem_map.1 stillWaits
    rw [← counts.recordFailure kept.nodup entry member, ← UInt32.lt_iff_toNat_lt]
    exact kept.recordFailure.attemptsLeft entry member
  · intro few
    obtain ⟨entry, member, isCode⟩ := List.mem_map.1 waits
    have count := counts entry member
    have atMost := toNat_oneMore_le entry.2.failedAttempts
    rw [attemptsSinceIssue_recordFailure, ← isCode, ← count] at few
    have attemptsLeft : ¬ limits.maxFailedPerCode ≤ oneMore entry.2.failedAttempts := by
      rw [UInt32.le_iff_toNat_le]
      omega
    rw [recordFailure_pending_eq_filter kept.nodup, kept.limits_eq]
    refine List.mem_map.2 ⟨countAttempt code entry, ?_, by rw [countAttempt, if_pos isCode, isCode]⟩
    refine List.mem_filter.2 ⟨List.mem_map_of_mem member, ?_⟩
    rw [countAttempt, if_pos isCode]
    simp [attemptsLeft]

/-! ## Verification -/

theorem usedUp_of_settle {approval : PendingApproval} {reason : String}
    (revoked : (desk.settle now code approval intentDigest).2 = .revoked reason) :
    desk.limits.maxFailedPerCode ≤ approval.failedAttempts := by
  by_contra attemptsLeft
  rw [settle, if_neg attemptsLeft] at revoked
  split at revoked
  · cases revoked
  · split at revoked <;> cases revoked

theorem exists_usedUp_of_verify {reason : String}
    (revoked : (desk.verify now code intentDigest).2 = .revoked reason) :
    ∃ entry ∈ desk.pending, desk.limits.maxFailedPerCode ≤ entry.2.failedAttempts := by
  have unlimited : (desk.verify now code intentDigest).2 ≠ .tooManyFailures := by
    rw [revoked]
    exact nofun
  rw [verify_of_few (few_of_verify_ne unlimited)] at revoked
  cases found : (desk.purgeExpired now).find? code with
  | none => rw [found] at revoked; cases revoked
  | some approval =>
      rw [found] at revoked
      dsimp only at revoked
      have waits := purgeExpired_sublist.subset (mem_of_find? found)
      have usedUp := usedUp_of_settle revoked
      exact ⟨_, waits, usedUp⟩

theorem verify_of_not_mem (gone : code ∉ desk.pending.map Prod.fst) :
    (desk.verify now code intentDigest).2 = .noSuchCode ∨
      (desk.verify now code intentDigest).2 = .tooManyFailures := by
  refine or_iff_not_imp_right.2 fun unlimited => ?_
  rw [verify_of_few (few_of_verify_ne unlimited)]
  cases found : (desk.purgeExpired now).find? code with
  | none => rfl
  | some approval =>
      have waits := purgeExpired_sublist.subset (mem_of_find? found)
      exact absurd (List.mem_map_of_mem waits) gone

/-! ## Runs -/

/-- On every run a waiting code is as it was issued last, has seen as many failed attempts as have been
made at it since, and has attempts left. It leaves with the attempt that is one too many. No verification
of the run is answered `revoked`, and one of a used up code that has not been issued again finds no such
code. Settings that are valid give no other limits than the ones that this is about. -/
theorem usedUp_is_gone (positive : 0 < limits.maxFailedPerCode)
    (run : respond.IsRun (empty limits) log) :
    (∀ entry ∈ (respond.after (empty limits) log).pending,
      latestIssue? log entry.1 = some (entry.2.asIssued entry.1) ∧
      entry.2.failedAttempts.toNat = attemptsSinceIssue log entry.1 ∧
      entry.2.failedAttempts < limits.maxFailedPerCode) ∧
    (∀ now code, code ∈ (respond.after (empty limits) log).pending.map Prod.fst →
      (code ∈ ((respond.after (empty limits) log).recordFailure now code).pending.map Prod.fst ↔
        attemptsSinceIssue (log ++ [⟨now, .recordFailure code, .noted⟩]) code <
          limits.maxFailedPerCode.toNat)) ∧
    (∀ before now code intentDigest outcome after,
      log = before ++ ⟨now, .verify code intentDigest, .verified outcome⟩ :: after →
      (∀ reason, outcome ≠ .revoked reason) ∧
        (limits.maxFailedPerCode.toNat ≤ attemptsSinceIssue before code →
          outcome = .noSuchCode ∨ outcome = .tooManyFailures)) ∧
    ∀ settings : Settings, settings.fault? = none →
      0 < settings.approval.toLimits.maxFailedPerCode := by
  have kept := wellKept_after positive run
  have counts := countsAttempts_after positive run
  refine ⟨fun entry member => ?waiting, fun now code waits => mem_recordFailure_iff counts kept waits,
    ?verified, fun settings valid => ?settings⟩
  case waiting =>
    exact ⟨kept.issued entry member, counts entry member, kept.attemptsLeft entry member⟩
  case verified =>
    rintro before now code intentDigest outcome after rfl
    have keptBefore := wellKept_after positive run.of_append
    have countsBefore := countsAttempts_after positive run.of_append
    obtain rfl : outcome = ((respond.after (empty limits) before).verify now code intentDigest).2 :=
      ApprovalAnswer.verified.inj run.answer_eq
    refine ⟨fun reason revoked => ?_, fun usedUp => verify_of_not_mem fun waits => ?_⟩
    · obtain ⟨entry, member, usedUp⟩ := exists_usedUp_of_verify revoked
      rw [keptBefore.limits_eq] at usedUp
      exact UInt32.not_le.2 (keptBefore.attemptsLeft entry member) usedUp
    · obtain ⟨entry, member, rfl⟩ := List.mem_map.1 waits
      have attemptsLeft := keptBefore.attemptsLeft entry member
      rw [UInt32.lt_iff_toNat_lt, countsBefore entry member] at attemptsLeft
      exact Nat.not_lt.2 usedUp attemptsLeft
  case settings =>
    have noFaults : settings.faults = [] := List.head?_eq_none_iff.1 valid
    simp only [Settings.faults, ApprovalSettings.faults, List.append_eq_nil_iff, faultIf_eq_nil_iff,
      beq_eq_false_iff_ne] at noFaults
    exact UInt32.pos_iff_ne_zero.2 noFaults.1.1.2.1.2

/-- A code fails three times, once after the clock has gone back, and is then entered for its own
call. -/
def spentCode : List ApprovalExchange :=
  let intent : Intent := ⟨1, default, default, 5, []⟩
  let clock (second : Fin 300) : Instant :=
    ⟨second * 1000, by unfold earliestMillis; omega, by unfold latestMillis; omega⟩
  let failure (second : Fin 300) : ApprovalExchange :=
    ⟨clock second, .recordFailure "00000042", .noted⟩
  [⟨clock 20, .issue "00000042" intent "payment", .issued ⟨"00000042",
      intent.approvalDigest (expirySecond (clock 200)), intent.digest, "payment", clock 200⟩⟩,
    failure 30, failure 10, failure 40,
    ⟨clock 50, .verify "00000042" intent.digest, .verified .noSuchCode⟩]

theorem usedUp_is_gone_spentCode :
    let twice := respond.after (empty .standard) (spentCode.take 3)
    respond.IsRun (empty .standard) spentCode ∧
      twice.pending.map (fun entry => (entry.1, entry.2.failedAttempts)) = [("00000042", 2)] ∧
      (∀ now, "00000042" ∉ (twice.recordFailure now "00000042").pending.map Prod.fst) ∧
      ∀ now intentDigest outcome, respond.IsRun (empty .standard) (spentCode.take 4 ++
          [⟨now, .verify "00000042" intentDigest, .verified outcome⟩]) →
        outcome = .noSuchCode ∨ outcome = .tooManyFailures := by
  intro twice
  have run : respond.IsRun (empty .standard) spentCode := ⟨rfl, rfl, rfl, rfl, rfl, trivial⟩
  have runTwice : respond.IsRun (empty .standard) (spentCode.take 3) := ⟨rfl, rfl, rfl, trivial⟩
  have waits : "00000042" ∈ twice.pending.map Prod.fst := List.mem_singleton.2 rfl
  obtain ⟨-, leaves, -, -⟩ := usedUp_is_gone (by decide) runTwice
  refine ⟨run, rfl, fun now stillWaits => ?_, fun now intentDigest outcome verifies => ?_⟩
  · have few := (leaves now _ waits).1 stillWaits
    rw [attemptsSinceIssue_recordFailure] at few
    exact absurd few (by decide)
  · obtain ⟨-, -, verified, -⟩ := usedUp_is_gone (by decide) verifies
    exact (verified _ now _ intentDigest outcome [] rfl).2 (by decide)

end ApprovalDesk

end WalletPolicy
