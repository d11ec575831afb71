import Mathlib.Data.List.Induction
import Mathlib.Data.List.Nodup
import WalletPolicy.Approval.Desk
import WalletPolicy.Proofs.Runs

/-!
# The history behind an approval desk

`Standing` tells from the log of a run what has become of a code. Whatever waits at a desk stands in
the log, with codes and clock as they please (`ApprovalDesk.remembers_after`).
-/

namespace WalletPolicy

/-! ## Runs of a desk -/

inductive ApprovalCall where
  | issue (code : String) (intent : Intent) (summary : String)
  | verify (code : String) (intentDigest : Digest)
  | recordFailure (code : String)
  | count
  | list (order : List String)
  deriving DecidableEq

inductive ApprovalAnswer where
  | issued (approval : IssuedApproval)
  | verified (outcome : ApprovalOutcome)
  | noted
  | counted (waiting : Nat)
  | listed (approvals : List ListedApproval)
  deriving DecidableEq

abbrev ApprovalExchange := Exchange ApprovalCall ApprovalAnswer

def ApprovalDesk.respond : Responder ApprovalDesk ApprovalCall ApprovalAnswer :=
  fun desk now call =>
    match call with
    | .issue code intent summary =>
      let (desk, issued) := desk.issue now code intent summary
      (desk, .issued issued)
    | .verify code intentDigest =>
      let (desk, outcome) := desk.verify now code intentDigest
      (desk, .verified outcome)
    | .recordFailure code => (desk.recordFailure now code, .noted)
    | .count =>
      let (desk, waiting) := desk.count now
      (desk, .counted waiting)
    | .list order =>
      let (desk, approvals) := desk.list now order
      (desk, .listed approvals)

def ApprovalOutcome.ends : ApprovalOutcome → Bool
  | .approved .. | .expired | .revoked _ => true
  | .invalid _ | .rateLimited _ => false

namespace Exchange

def handsOut (code : String) (exchange : ApprovalExchange) : Bool :=
  match exchange.answer with
  | .issued approval => approval.code == code
  | _ => false

def ends (code : String) (exchange : ApprovalExchange) : Bool :=
  match exchange.call, exchange.answer with
  | .verify verified _, .verified outcome => verified == code && outcome.ends
  | _, _ => false

def approves (code : String) (exchange : ApprovalExchange) : Bool :=
  match exchange.call, exchange.answer with
  | .verify verified _, .verified outcome => verified == code && outcome.isApproved
  | _, _ => false

def fails (code : String) (exchange : ApprovalExchange) : Bool :=
  match exchange.call with
  | .recordFailure failed => failed == code
  | _ => false

end Exchange

/-- Whether a code was last issued at an instant for a call, and since then has not ended and has
seen so many failed attempts. -/
def Standing (log : List ApprovalExchange) (intent : Intent) (issuedAt : Instant)
    (issued : IssuedApproval) (failed : Nat) : Prop :=
  ∃ past since,
    log = past ++ ⟨issuedAt, .issue issued.code intent issued.summary, .issued issued⟩ :: since ∧
    (∀ exchange ∈ since, exchange.handsOut issued.code = false ∧ exchange.ends issued.code = false) ∧
    since.countP (Exchange.fails issued.code) = failed

namespace Standing

variable {log : List ApprovalExchange} {intent : Intent} {issuedAt : Instant}
  {issued : IssuedApproval} {failed : Nat} {exchange : ApprovalExchange}

theorem snoc_issue (issued : IssuedApproval) : Standing
    (log ++ [⟨issuedAt, .issue issued.code intent issued.summary, .issued issued⟩])
    intent issuedAt issued 0 :=
  ⟨log, [], rfl, by simp, rfl⟩

theorem snoc (standing : Standing log intent issuedAt issued failed)
    (notIssued : exchange.handsOut issued.code = false)
    (notEnded : exchange.ends issued.code = false) :
    Standing (log ++ [exchange]) intent issuedAt issued
      (failed + if exchange.fails issued.code then 1 else 0) := by
  obtain ⟨past, since, rfl, still, rfl⟩ := standing
  refine ⟨past, since ++ [exchange], by simp, ?_, by simp [List.countP_singleton]⟩
  simp only [List.forall_mem_append, List.forall_mem_singleton]
  exact ⟨still, notIssued, notEnded⟩

end Standing

/-! ## What each operation keeps of the waiting codes -/

theorem Instant.laterOrSame_le {instant : Instant} {span : Int} (forward : 0 ≤ span) :
    (instant.laterOrSame span).millis ≤ instant.millis + span := by
  unfold laterOrSame later? ofMillis?
  split
  · exact Int.le_refl _
  · exact Int.le_add_of_nonneg_right forward

namespace ApprovalDesk

variable {desk : ApprovalDesk} {now : Instant} {code : String} {intentDigest : Digest}
  {entry : String × PendingApproval}

@[simp] theorem purgeFailures_limits : (desk.purgeFailures now).limits = desk.limits := rfl

@[simp] theorem purgeExpired_limits : (desk.purgeExpired now).limits = desk.limits := rfl

theorem purgeExpired_sublist : (desk.purgeExpired now).pending.Sublist desk.pending :=
  List.filter_sublist

theorem remove_sublist : (desk.remove code).pending.Sublist desk.pending :=
  List.filter_sublist

theorem mem_remove_iff :
    entry ∈ (desk.remove code).pending ↔ entry ∈ desk.pending ∧ entry.1 ≠ code := by
  simp [remove]

theorem mem_of_find? {approval : PendingApproval} (found : desk.find? code = some approval) :
    (code, approval) ∈ desk.pending := by
  obtain ⟨before, after, split, -⟩ := List.lookup_eq_some_iff.1 found
  rw [split]
  exact List.mem_append_right _ List.mem_cons_self

theorem find?_eq_some_of_mem {approval : PendingApproval}
    (nodup : (desk.pending.map Prod.fst).Nodup) (member : (code, approval) ∈ desk.pending) :
    desk.find? code = some approval := by
  obtain ⟨before, after, split⟩ := List.append_of_mem member
  refine List.lookup_eq_some_iff.2 ⟨before, after, split, fun entry isEarlier => ?_⟩
  rw [split, List.map_append, List.map_cons, List.nodup_middle] at nodup
  have isCode : entry.1 ∈ before.map Prod.fst := List.mem_map_of_mem isEarlier
  rw [bne_iff_ne]
  intro same
  exact (List.nodup_cons.1 nodup).1 (List.mem_append_left _ (same ▸ isCode))

@[simp] theorem verify_limits : (desk.verify now code intentDigest).1.limits = desk.limits := by
  unfold verify settle
  dsimp only
  repeat' split
  all_goals rfl

theorem verify_sublist :
    (desk.verify now code intentDigest).1.pending.Sublist desk.pending := by
  unfold verify settle
  dsimp only
  repeat' split
  all_goals first
    | exact List.Sublist.refl _
    | exact purgeExpired_sublist
    | exact remove_sublist.trans purgeExpired_sublist

theorem ne_of_mem_verify (ends : (desk.verify now code intentDigest).2.ends = true)
    (member : entry ∈ (desk.verify now code intentDigest).1.pending) : entry.1 ≠ code := by
  revert ends member
  unfold verify settle
  dsimp only
  repeat' split
  all_goals intro ends member
  all_goals first
    | exact (mem_remove_iff.1 member).2
    | cases ends

theorem settle_eq_approved_iff {approval : PendingApproval} {approvalDigest : Digest}
    {summary : String} :
    (desk.settle now code approval intentDigest).2 = .approved approvalDigest summary ↔
      approval.failedAttempts < desk.limits.maxFailedPerCode ∧
        now.millis < approval.expiresAt.millis ∧ approval.intentDigest = intentDigest ∧
        approval.approvalDigest = approvalDigest ∧ approval.summary = summary := by
  rw [← UInt32.not_le, ← Int.not_le, ← Decidable.not_not (p := approval.intentDigest = _)]
  unfold settle
  split
  · rename_i usedUp
    simp [usedUp, ApprovalOutcome.tooManyAttempts]
  · rename_i attemptsLeft
    split
    · rename_i isOver
      simp [isOver]
    · rename_i inTime
      split
      · rename_i otherCall
        simp [otherCall, ApprovalOutcome.otherCall]
      · rename_i sameCall
        simp [attemptsLeft, inTime, sameCall]

theorem few_of_verify_ne (unlimited : (desk.verify now code intentDigest).2 ≠ .tooManyFailures) :
    (desk.purgeFailures now).failures.length < desk.limits.maxGlobalFailures := by
  refine Nat.not_le.1 fun tooMany => unlimited ?_
  unfold verify
  dsimp only
  rw [purgeFailures_limits, if_pos tooMany]

theorem verify_of_few
    (few : (desk.purgeFailures now).failures.length < desk.limits.maxGlobalFailures) :
    (desk.verify now code intentDigest).2 =
      match (desk.purgeExpired now).find? code with
      | none => .noSuchCode
      | some approval =>
        (((desk.purgeFailures now).purgeExpired now).settle now code approval intentDigest).2 := by
  have sameFind : ((desk.purgeFailures now).purgeExpired now).find? code =
      (desk.purgeExpired now).find? code := rfl
  unfold verify
  dsimp only
  rw [purgeFailures_limits, if_neg (Nat.not_le.2 few), sameFind]
  cases (desk.purgeExpired now).find? code <;> rfl

theorem verify_eq_approved_iff {approvalDigest : Digest} {summary : String} :
    (desk.verify now code intentDigest).2 = .approved approvalDigest summary ↔
      (desk.purgeFailures now).failures.length < desk.limits.maxGlobalFailures ∧
      ∃ approval, (desk.purgeExpired now).find? code = some approval ∧
        approval.failedAttempts < desk.limits.maxFailedPerCode ∧
        now.millis < approval.expiresAt.millis ∧ approval.intentDigest = intentDigest ∧
        approval.approvalDigest = approvalDigest ∧ approval.summary = summary := by
  by_cases few : (desk.purgeFailures now).failures.length < desk.limits.maxGlobalFailures
  · rw [verify_of_few few]
    cases (desk.purgeExpired now).find? code with
    | none => simp [ApprovalOutcome.noSuchCode]
    | some approval => simp [settle_eq_approved_iff, few]
  · refine iff_of_false (fun approved => ?_) fun ⟨enough, _⟩ => few enough
    have unlimited : (desk.verify now code intentDigest).2 ≠ .tooManyFailures := by
      rw [approved]
      exact nofun
    exact few (few_of_verify_ne unlimited)

theorem toNat_oneMore {attempts limit : UInt32} (below : oneMore attempts < limit) :
    (oneMore attempts).toNat = attempts.toNat + 1 := by
  have limited := limit.toNat_lt_size
  rw [UInt32.lt_iff_toNat_lt] at below
  unfold oneMore at below ⊢
  rw [UInt32.toNat_ofNat_of_lt' (by unfold UInt32.size; omega)] at below ⊢
  omega

theorem recordFailure_pending : (desk.recordFailure now code).pending =
    let counted := { desk with pending := desk.pending.map (countAttempt code) }
    if counted.isUsedUp code then (counted.remove code).pending else counted.pending := by
  unfold recordFailure
  dsimp only
  split <;> rfl

theorem map_fst_countAttempt (entries : List (String × PendingApproval)) :
    (entries.map (countAttempt code)).map Prod.fst = entries.map Prod.fst := by
  rw [List.map_map]
  refine List.map_congr_left fun entry _ => ?_
  unfold Function.comp countAttempt
  split <;> rfl

theorem nodup_recordFailure (nodup : (desk.pending.map Prod.fst).Nodup) :
    ((desk.recordFailure now code).pending.map Prod.fst).Nodup := by
  rw [recordFailure_pending]
  have counted : ((desk.pending.map (countAttempt code)).map Prod.fst).Nodup := by
    rwa [map_fst_countAttempt]
  dsimp only
  split
  · exact counted.sublist (remove_sublist.map _)
  · exact counted

/-- A code that waits after a failed attempt has been waiting before; if the attempt was at this
code, it has been counted. -/
theorem exists_of_mem_recordFailure (nodup : (desk.pending.map Prod.fst).Nodup)
    (member : entry ∈ (desk.recordFailure now code).pending) :
    ∃ attempts, (entry.1, { entry.2 with failedAttempts := attempts }) ∈ desk.pending ∧
      entry.2.failedAttempts.toNat = attempts.toNat + if code = entry.1 then 1 else 0 := by
  let counted : ApprovalDesk := { desk with pending := desk.pending.map (countAttempt code) }
  have kept : entry ∈ counted.pending ∧ (entry.1 = code → counted.isUsedUp code = false) := by
    rw [recordFailure_pending] at member
    dsimp only at member
    split at member
    · obtain ⟨waits, other⟩ := mem_remove_iff.1 member
      exact ⟨waits, fun same => absurd same other⟩
    · rename_i attemptsLeft
      exact ⟨member, fun _ => Bool.eq_false_iff.2 attemptsLeft⟩
  obtain ⟨waits, attemptsLeft⟩ := kept
  obtain ⟨old, wasWaiting, rfl⟩ := List.mem_map.1 waits
  by_cases same : old.1 = code
  · have counts : countAttempt code old =
        (code, { old.2 with failedAttempts := oneMore old.2.failedAttempts }) := by
      rw [countAttempt, if_pos same, same]
    rw [counts] at waits attemptsLeft ⊢
    have found := find?_eq_some_of_mem (by rwa [map_fst_countAttempt]) waits
    have below := attemptsLeft rfl
    simp only [isUsedUp, found, decide_eq_false_iff_not, UInt32.not_le] at below
    exact ⟨old.2.failedAttempts, same ▸ wasWaiting, by simpa using toNat_oneMore below⟩
  · have unchanged : countAttempt code old = old := by rw [countAttempt, if_neg same]
    rw [unchanged]
    exact ⟨old.2.failedAttempts, wasWaiting, by simp [Ne.symm same]⟩

theorem insert_pending {approval : PendingApproval} :
    (desk.insert code approval).pending = (desk.remove code).pending ++ [(code, approval)] := rfl

theorem nodup_insert {approval : PendingApproval} (nodup : (desk.pending.map Prod.fst).Nodup) :
    ((desk.insert code approval).pending.map Prod.fst).Nodup := by
  rw [insert_pending, List.map_append, List.map_singleton, List.nodup_append]
  refine ⟨nodup.sublist (remove_sublist.map _), List.nodup_singleton _, ?_⟩
  intro other member same isCode
  obtain ⟨entry, waits, rfl⟩ := List.mem_map.1 member
  rw [List.mem_singleton.1 isCode]
  exact (mem_remove_iff.1 waits).2

/-! ## The invariant -/

end ApprovalDesk

def PendingApproval.asIssued (approval : PendingApproval) (code : String) : IssuedApproval where
  code := code
  approvalDigest := approval.approvalDigest
  intentDigest := approval.intentDigest
  summary := approval.summary
  expiresAt := approval.expiresAt

@[simp] theorem PendingApproval.asIssued_code {approval : PendingApproval} {code : String} :
    (approval.asIssued code).code = code := rfl

def PendingApproval.StandsIn (approval : PendingApproval) (code : String) (limits : ApprovalLimits)
    (log : List ApprovalExchange) : Prop :=
  ∃ intent issuedAt,
    Standing log intent issuedAt (approval.asIssued code) approval.failedAttempts.toNat ∧
    intent.digest = approval.intentDigest ∧
    approval.expiresAt.millis ≤ issuedAt.millis + limits.expiry

namespace ApprovalDesk

structure Remembers (desk : ApprovalDesk) (limits : ApprovalLimits)
    (log : List ApprovalExchange) : Prop where
  limits_eq : desk.limits = limits
  nodup : (desk.pending.map Prod.fst).Nodup
  standing : ∀ code approval, (code, approval) ∈ desk.pending → approval.StandsIn code limits log

namespace Remembers

variable {desk : ApprovalDesk} {limits : ApprovalLimits} {log : List ApprovalExchange}
  {now : Instant} {code : String} {exchange : ApprovalExchange}

theorem forget (remembers : desk.Remembers limits log) {later : ApprovalDesk}
    (sameLimits : later.limits = desk.limits) (fewer : later.pending.Sublist desk.pending)
    (quiet : ∀ code, exchange.handsOut code = false ∧ exchange.fails code = false)
    (waits : ∀ entry ∈ later.pending, exchange.ends entry.1 = false) :
    later.Remembers limits (log ++ [exchange]) where
  limits_eq := sameLimits.trans remembers.limits_eq
  nodup := remembers.nodup.sublist (fewer.map _)
  standing code approval member := by
    obtain ⟨intent, issuedAt, standing, sameCall, expiry⟩ :=
      remembers.standing code approval (fewer.subset member)
    have still := standing.snoc (quiet code).1 (waits _ member)
    refine ⟨intent, issuedAt, ?_, sameCall, expiry⟩
    simpa [(quiet _).2] using still

theorem issue (remembers : desk.Remembers limits log) (forward : 0 ≤ limits.expiry)
    {intent : Intent} {summary : String} :
    (desk.issue now code intent summary).1.Remembers limits
      (log ++ [⟨now, .issue code intent summary,
        .issued (desk.issue now code intent summary).2⟩]) := by
  have purged : (desk.purgeExpired now).pending.Sublist desk.pending := purgeExpired_sublist
  refine ⟨remembers.limits_eq, nodup_insert (remembers.nodup.sublist (purged.map _)), ?_⟩
  intro other approval member
  rcases List.mem_append.1 member with waits | isNew
  · obtain ⟨wasWaiting, notCode⟩ := mem_remove_iff.1 waits
    obtain ⟨intent, issuedAt, standing, sameCall, expiry⟩ :=
      remembers.standing other approval (purged.subset wasWaiting)
    refine ⟨intent, issuedAt, ?_, sameCall, expiry⟩
    exact standing.snoc (by simpa [Exchange.handsOut, ApprovalDesk.issue] using Ne.symm notCode) rfl
  · obtain ⟨rfl, rfl⟩ := Prod.mk.inj (List.mem_singleton.1 isNew)
    refine ⟨intent, now, Standing.snoc_issue (desk.issue now other intent summary).2, rfl, ?_⟩
    rw [← remembers.limits_eq] at forward ⊢
    exact Instant.laterOrSame_le forward

theorem recordFailure (remembers : desk.Remembers limits log) :
    (desk.recordFailure now code).Remembers limits
      (log ++ [⟨now, .recordFailure code, .noted⟩]) := by
  refine ⟨?_, nodup_recordFailure remembers.nodup, ?_⟩
  · rw [← remembers.limits_eq]
    unfold ApprovalDesk.recordFailure
    dsimp only
    split <;> rfl
  intro other approval member
  obtain ⟨attempts, wasWaiting, counted⟩ := exists_of_mem_recordFailure remembers.nodup member
  obtain ⟨intent, issuedAt, standing, sameCall, expiry⟩ := remembers.standing other _ wasWaiting
  refine ⟨intent, issuedAt, ?_, sameCall, expiry⟩
  have still : Standing (log ++ [⟨now, .recordFailure code, .noted⟩]) intent issuedAt
      (approval.asIssued other) _ := standing.snoc rfl rfl
  rw [counted]
  simpa [Exchange.fails] using still

theorem verify (remembers : desk.Remembers limits log) {intentDigest : Digest} :
    (desk.verify now code intentDigest).1.Remembers limits
      (log ++ [⟨now, .verify code intentDigest,
        .verified (desk.verify now code intentDigest).2⟩]) := by
  refine remembers.forget verify_limits verify_sublist (fun _ => ⟨rfl, rfl⟩) ?_
  intro entry waits
  rw [Exchange.ends, Bool.and_eq_false_imp, beq_iff_eq]
  intro isCode
  by_contra ends
  exact ne_of_mem_verify (Bool.not_eq_false _ ▸ ends) waits isCode.symm

theorem next (remembers : desk.Remembers limits log) (forward : 0 ≤ limits.expiry)
    (answered : exchange.answer = (respond desk exchange.time exchange.call).2) :
    (respond.next desk exchange).Remembers limits (log ++ [exchange]) := by
  obtain ⟨now, call, answer⟩ := exchange
  dsimp only at answered
  subst answered
  unfold Responder.next
  cases call with
  | issue code intent summary => exact remembers.issue forward
  | verify code intentDigest => exact remembers.verify
  | recordFailure code => exact remembers.recordFailure
  | count =>
      exact remembers.forget rfl purgeExpired_sublist (fun _ => ⟨rfl, rfl⟩) fun _ _ => rfl
  | list order =>
      exact remembers.forget rfl purgeExpired_sublist (fun _ => ⟨rfl, rfl⟩) fun _ _ => rfl

end Remembers

theorem remembers_empty (limits : ApprovalLimits) : (empty limits).Remembers limits [] where
  limits_eq := rfl
  nodup := List.nodup_nil
  standing _ _ member := absurd member List.not_mem_nil

theorem remembers_after {limits : ApprovalLimits} (forward : 0 ≤ limits.expiry)
    {log : List ApprovalExchange} (run : respond.IsRun (empty limits) log) :
    (respond.after (empty limits) log).Remembers limits log := by
  induction log using List.reverseRecOn with
  | nil => exact remembers_empty limits
  | append_singleton earlier exchange ih =>
      rw [Responder.after_append_singleton]
      exact (ih run.of_append).next forward run.answer_eq

end ApprovalDesk

end WalletPolicy
