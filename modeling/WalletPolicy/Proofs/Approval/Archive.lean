import WalletPolicy.Proofs.Approval.History

/-!
# The archive behind a desk

An archive never purges: it keeps every failure there has been and, for each code, the latest
approval until that ends. On a clock that never goes back a desk answers like its archive
(`ApprovalDesk.isRun_iff_archive`): which operations of the desk purge, and when, never shows.
-/

namespace WalletPolicy

/-! ## Lists of approvals -/

namespace ListedApproval

variable {approvals shown : List ListedApproval} {order : List String}

def Sorted (shown : List ListedApproval) : Prop :=
  shown.Pairwise fun one two => one.expiresAt.millis ≤ two.expiresAt.millis

theorem arrange_perm (order : List String) (approvals : List ListedApproval) :
    (arrange order approvals).Perm approvals :=
  (List.mergeSort_perm _ _).trans (List.mergeSort_perm _ _)

theorem pairwise_mergeSort_key {Key : Type} [LE Key] [DecidableLE Key] [Std.IsLinearPreorder Key]
    (key : ListedApproval → Key) :
    (approvals.mergeSort fun a b => key a ≤ key b).Pairwise fun a b => key a ≤ key b := by
  have sorted : (approvals.mergeSort fun a b => key a ≤ key b).Pairwise fun a b =>
      decide (key a ≤ key b) = true :=
    List.pairwise_mergeSort (fun a b c => by simpa using Std.le_trans)
      (fun a b => by simpa using Std.le_total) _
  exact sorted.imp of_decide_eq_true

theorem sorted_arrange : Sorted (arrange order approvals) :=
  pairwise_mergeSort_key (·.expiresAt.millis)

theorem arrange_map_code (same : shown.Perm approvals) (nodup : (shown.map (·.code)).Nodup)
    (sorted : Sorted shown) : arrange (shown.map (·.code)) approvals = shown := by
  let rank (approval : ListedApproval) : Nat := (shown.map (·.code)).idxOf approval.code
  have shownRanked : shown.Pairwise fun a b => rank a ≤ rank b := by
    refine List.pairwise_iff_getElem.2 fun i j isFirst isSecond order => ?_
    have first := nodup.idxOf_getElem i (by simpa using isFirst)
    have second := nodup.idxOf_getElem j (by simpa using isSecond)
    simp only [List.getElem_map] at first second
    simpa only [rank, first, second] using Nat.le_of_lt order
  -- Codes occur once, so there is no more than one way to keep them in this order.
  have unique (a b : ListedApproval) (isKept : a ∈ approvals.mergeSort fun a b => rank a ≤ rank b)
      (isShown : b ∈ shown) (before : rank a ≤ rank b) (after : rank b ≤ rank a) : a = b := by
    have alsoShown : a ∈ shown := same.mem_iff.2 (List.mem_mergeSort.1 isKept)
    have sameCode : a.code = b.code :=
      (List.idxOf_inj (List.mem_map_of_mem alsoShown)).1 (Nat.le_antisymm before after)
    exact List.inj_on_of_nodup_map nodup alsoShown isShown sameCode
  have kept : (approvals.mergeSort fun a b => rank a ≤ rank b) = shown :=
    List.Perm.eq_of_pairwise unique (pairwise_mergeSort_key rank) shownRanked
      ((List.mergeSort_perm _ _).trans same.symm)
  unfold arrange
  rw [kept]
  exact List.mergeSort_of_pairwise (sorted.imp decide_eq_true)

/-- The orders in which codes may be kept make for every list in the order of expiry. -/
theorem exists_arrange_eq_iff (nodup : (approvals.map (·.code)).Nodup) :
    (∃ order, arrange order approvals = shown) ↔ shown.Perm approvals ∧ Sorted shown := by
  constructor
  · rintro ⟨order, rfl⟩
    exact ⟨arrange_perm order approvals, sorted_arrange⟩
  · rintro ⟨same, sorted⟩
    exact ⟨_, arrange_map_code same ((same.map _).nodup_iff.2 nodup) sorted⟩

end ListedApproval

/-! ## Answers from an archive -/

structure ArchivedApproval where
  issued : IssuedApproval
  failed : Nat
  deriving DecidableEq

structure ApprovalArchive where
  failures : List Instant
  standing : List ArchivedApproval
  deriving DecidableEq

namespace ArchivedApproval

def hasCode (code : String) (entry : ArchivedApproval) : Bool := entry.issued.code == code

def waits (now : Instant) (entry : ArchivedApproval) : Bool :=
  now.millis ≤ entry.issued.expiresAt.millis

def countAttempt (code : String) (entry : ArchivedApproval) : ArchivedApproval :=
  if entry.hasCode code then { entry with failed := entry.failed + 1 } else entry

@[simp] theorem issued_countAttempt {entry : ArchivedApproval} {code : String} :
    (entry.countAttempt code).issued = entry.issued := by
  unfold countAttempt
  split <;> rfl

theorem filter_waits_map {entries : List ArchivedApproval} {now : Instant} {code : String} :
    (entries.map (·.countAttempt code)).filter (·.waits now) =
      (entries.filter (·.waits now)).map (·.countAttempt code) := by
  rw [List.filter_map]
  simp only [Function.comp_def, waits, issued_countAttempt]

def listed (now : Instant) (entry : ArchivedApproval) : ListedApproval where
  code := entry.issued.code
  summary := entry.issued.summary
  digestStart := entry.issued.approvalDigest.short
  expiresAt := entry.issued.expiresAt
  expiresInSecs := expiresInSecs entry.issued.expiresAt now

end ArchivedApproval

namespace ApprovalArchive

def empty : ApprovalArchive := ⟨[], []⟩

def find? (archive : ApprovalArchive) (code : String) : Option ArchivedApproval :=
  archive.standing.find? (·.hasCode code)

def fail (archive : ApprovalArchive) (now : Instant) : ApprovalArchive :=
  { archive with failures := now :: archive.failures }

def close (archive : ApprovalArchive) (code : String) : ApprovalArchive :=
  { archive with standing := archive.standing.filter fun entry => !entry.hasCode code }

def recentFailures (archive : ApprovalArchive) (now : Instant) (window : Int) : Nat :=
  archive.failures.countP fun time => now.millis - window < time.millis

def waiting (archive : ApprovalArchive) (now : Instant) : List ArchivedApproval :=
  archive.standing.filter (·.waits now)

def issue (archive : ApprovalArchive) (limits : ApprovalLimits) (now : Instant) (code : String)
    (intent : Intent) (summary : String) : ApprovalArchive × IssuedApproval :=
  let expiresAt := now.laterOrSame limits.expiry
  let issued : IssuedApproval := {
    code
    approvalDigest := intent.approvalDigest (ApprovalDesk.expirySecond expiresAt)
    intentDigest := intent.digest
    summary
    expiresAt }
  ({ archive with standing := (archive.close code).standing ++ [⟨issued, 0⟩] }, issued)

def settle (archive : ApprovalArchive) (limits : ApprovalLimits) (now : Instant) (code : String)
    (entry : ArchivedApproval) (intentDigest : Digest) : ApprovalArchive × ApprovalOutcome :=
  if entry.issued.expiresAt.millis < now.millis then (archive.fail now, .noSuchCode)
  else if limits.maxFailedPerCode.toNat ≤ entry.failed then (archive.close code, .tooManyAttempts)
  else if entry.issued.expiresAt.millis = now.millis then (archive.close code, .expired)
  else if entry.issued.intentDigest ≠ intentDigest then (archive.fail now, .otherCall)
  else (archive.close code, .approved entry.issued.approvalDigest entry.issued.summary)

def verify (archive : ApprovalArchive) (limits : ApprovalLimits) (now : Instant) (code : String)
    (intentDigest : Digest) : ApprovalArchive × ApprovalOutcome :=
  if limits.maxGlobalFailures ≤ archive.recentFailures now limits.failureWindow then
    (archive, .tooManyFailures)
  else
    match archive.find? code with
    | none => (archive.fail now, .noSuchCode)
    | some entry => archive.settle limits now code entry intentDigest

def recordFailure (archive : ApprovalArchive) (limits : ApprovalLimits) (now : Instant)
    (code : String) : ApprovalArchive where
  failures := now :: archive.failures
  standing := (archive.standing.map (·.countAttempt code)).filter fun entry =>
    !(entry.hasCode code && limits.maxFailedPerCode.toNat ≤ entry.failed)

def list (archive : ApprovalArchive) (now : Instant) (order : List String) : List ListedApproval :=
  ListedApproval.arrange order ((archive.waiting now).map (·.listed now))

def respond (limits : ApprovalLimits) : Responder ApprovalArchive ApprovalCall ApprovalAnswer :=
  fun archive now call =>
    match call with
    | .issue code intent summary =>
      let (archive, issued) := archive.issue limits now code intent summary
      (archive, .issued issued)
    | .verify code intentDigest =>
      let (archive, outcome) := archive.verify limits now code intentDigest
      (archive, .verified outcome)
    | .recordFailure code => (archive.recordFailure limits now code, .noted)
    | .count => (archive, .counted (archive.waiting now).length)
    | .list order => (archive, .listed (archive.list now order))

theorem find?_waiting {archive : ApprovalArchive} {now : Instant} {code : String}
    (nodup : (archive.standing.map (·.issued.code)).Nodup) :
    (archive.waiting now).find? (·.hasCode code) = (archive.find? code).filter (·.waits now) := by
  have only : ∀ entry ∈ archive.standing, ∀ other ∈ archive.standing,
      entry.hasCode code = true → other.hasCode code = true → other = entry := by
    intro entry member other isOther isCode otherIsCode
    exact List.inj_on_of_nodup_map nodup isOther member
      ((beq_iff_eq.1 otherIsCode).trans (beq_iff_eq.1 isCode).symm)
  cases found : archive.find? code with
  | none =>
      refine List.find?_eq_none.2 fun entry member => ?_
      exact List.find?_eq_none.1 found entry (List.mem_filter.1 member).1
  | some entry =>
      have isCode := List.find?_some found
      have member := List.mem_of_find?_eq_some found
      rw [Option.filter_some]
      split
      · rename_i waits
        obtain ⟨other, isOther⟩ := Option.isSome_iff_exists.1
          (List.find?_isSome.2 ⟨entry, List.mem_filter.2 ⟨member, waits⟩, isCode⟩)
        rw [waiting, isOther, only entry member other
          (List.mem_filter.1 (List.mem_of_find?_eq_some isOther)).1 isCode (List.find?_some isOther)]
      · rename_i expired
        refine List.find?_eq_none.2 fun other isOther otherIsCode => expired ?_
        obtain ⟨otherMember, waits⟩ := List.mem_filter.1 isOther
        exact only entry member other otherMember isCode otherIsCode ▸ waits

end ApprovalArchive

/-! ## What a desk keeps of its archive -/

def archived (entry : String × PendingApproval) : ArchivedApproval where
  issued := entry.2.asIssued entry.1
  failed := entry.2.failedAttempts.toNat

namespace ApprovalDesk

def kept (desk : ApprovalDesk) : List ArchivedApproval := desk.pending.map archived

variable {desk : ApprovalDesk} {archive : ApprovalArchive} {limits : ApprovalLimits}
  {now later : Instant} {code : String} {intentDigest : Digest}

theorem kept_purgeExpired : (desk.purgeExpired now).kept = desk.kept.filter (·.waits now) := by
  rw [kept, kept, List.filter_map]
  rfl

theorem kept_remove : (desk.remove code).kept = desk.kept.filter fun entry => !entry.hasCode code := by
  rw [kept, kept, List.filter_map]
  rfl

theorem find?_kept :
    desk.kept.find? (·.hasCode code) =
      (desk.find? code).map fun approval => archived (code, approval) := by
  unfold kept find?
  induction desk.pending with
  | nil => rfl
  | cons entry others ih =>
      rw [List.map_cons, List.find?_cons, ih, List.lookup_cons]
      by_cases isCode : entry.1 = code
      · simp [← isCode, archived, ArchivedApproval.hasCode]
      · have notCode : (entry.1 == code) = false := beq_false_of_ne isCode
        have notCode' : (code == entry.1) = false := beq_false_of_ne (Ne.symm isCode)
        simp [archived, ArchivedApproval.hasCode, notCode, notCode']

/-! ## Failed attempts -/

theorem filter_usedUp (nodup : (desk.pending.map Prod.fst).Nodup) :
    (desk.pending.filter fun entry =>
      !(entry.1 == code && desk.limits.maxFailedPerCode ≤ entry.2.failedAttempts)) =
      if desk.isUsedUp code then (desk.remove code).pending else desk.pending := by
  -- Under the code there is at most one entry, and that is the one that decides.
  have decides : ∀ entry ∈ desk.pending, entry.1 = code →
      decide (desk.limits.maxFailedPerCode ≤ entry.2.failedAttempts) = desk.isUsedUp code := by
    rintro ⟨other, approval⟩ member rfl
    rw [isUsedUp, find?_eq_some_of_mem nodup member]
  split
  · rename_i usedUp
    refine List.filter_congr fun entry member => ?_
    by_cases isCode : entry.1 = code
    · simp [isCode, decides entry member isCode, usedUp]
    · simp [isCode, bne]
  · rename_i attemptsLeft
    refine List.filter_eq_self.2 fun entry member => ?_
    by_cases isCode : entry.1 = code
    · simp [isCode, decides entry member isCode, attemptsLeft]
    · simp [isCode]

theorem le_oneMore_iff {limit attempts : UInt32} :
    limit ≤ oneMore attempts ↔ limit.toNat ≤ attempts.toNat + 1 := by
  have bound := limit.toNat_lt_size
  have room : min (attempts.toNat + 1) (UInt32.size - 1) < UInt32.size := by
    unfold UInt32.size
    omega
  rw [UInt32.le_iff_toNat_le, oneMore, UInt32.toNat_ofNat_of_lt' room]
  omega

theorem map_archived_countAttempt {limit : UInt32} (entries : List (String × PendingApproval)) :
    ((entries.map (countAttempt code)).filter fun entry =>
        !(entry.1 == code && limit ≤ entry.2.failedAttempts)).map archived =
      ((entries.map archived).map (·.countAttempt code)).filter fun entry =>
        !(entry.hasCode code && limit.toNat ≤ entry.failed) := by
  induction entries with
  | nil => rfl
  | cons entry others ih =>
      obtain ⟨other, approval⟩ := entry
      simp only [List.map_cons, List.filter_cons, countAttempt, ArchivedApproval.countAttempt,
        ArchivedApproval.hasCode, archived, PendingApproval.asIssued_code] at ih ⊢
      by_cases isCode : other = code
      · subst isCode
        by_cases usedUp : limit ≤ oneMore approval.failedAttempts
        · simpa [usedUp, le_oneMore_iff.1 usedUp] using ih
        · have counts := toNat_oneMore (UInt32.not_le.1 usedUp)
          simpa [usedUp, mt le_oneMore_iff.2 usedUp, counts, archived, PendingApproval.asIssued]
            using ih
      · simpa [isCode, beq_false_of_ne isCode, archived] using ih

theorem recordFailure_pending_eq_filter (nodup : (desk.pending.map Prod.fst).Nodup) :
    (desk.recordFailure now code).pending =
      (desk.pending.map (countAttempt code)).filter fun entry =>
        !(entry.1 == code && desk.limits.maxFailedPerCode ≤ entry.2.failedAttempts) := by
  let counted : ApprovalDesk := { desk with pending := desk.pending.map (countAttempt code) }
  have countedNodup : (counted.pending.map Prod.fst).Nodup := by rwa [map_fst_countAttempt]
  rw [recordFailure_pending]
  exact (filter_usedUp countedNodup).symm

theorem kept_recordFailure (nodup : (desk.pending.map Prod.fst).Nodup) :
    (desk.recordFailure now code).kept =
      (desk.kept.map (·.countAttempt code)).filter fun entry =>
        !(entry.hasCode code && desk.limits.maxFailedPerCode.toNat ≤ entry.failed) := by
  rw [kept, kept, recordFailure_pending_eq_filter nodup, map_archived_countAttempt]

theorem recordFailure_failures :
    (desk.recordFailure now code).failures = (desk.noteFailure now).failures := by
  unfold recordFailure
  dsimp only
  split <;> rfl

theorem recordFailure_limits : (desk.recordFailure now code).limits = desk.limits := by
  unfold recordFailure
  dsimp only
  split <;> rfl

/-! ## The simulation -/

/-- Desk and archive have the same waiting approvals and count the same failures, from an instant
on. -/
structure Mirrors (now : Instant) (desk : ApprovalDesk) (limits : ApprovalLimits)
    (archive : ApprovalArchive) : Prop where
  limits_eq : desk.limits = limits
  nodup : (desk.pending.map Prod.fst).Nodup
  archiveNodup : (archive.standing.map (·.issued.code)).Nodup
  waiting : desk.kept.filter (·.waits now) = archive.waiting now
  failures : ∀ cutoff, now.millis - limits.failureWindow ≤ cutoff →
    desk.failures.countP (fun time => cutoff < time.millis) =
      archive.failures.countP fun time => cutoff < time.millis

def Agree {Answer : Type} (now : Instant) (limits : ApprovalLimits) (left : ApprovalDesk × Answer)
    (right : ApprovalArchive × Answer) : Prop :=
  left.2 = right.2 ∧ left.1.Mirrors now limits right.1

theorem Agree.ite {Answer : Type} {one two : Prop} [Decidable one] [Decidable two]
    {left other : ApprovalDesk × Answer} {right another : ApprovalArchive × Answer}
    (same : one ↔ two) (yes : Agree now limits left right) (no : Agree now limits other another) :
    Agree now limits (if one then left else other) (if two then right else another) := by
  by_cases holds : two
  · rw [if_pos (same.2 holds), if_pos holds]
    exact yes
  · rw [if_neg (mt same.1 holds), if_neg holds]
    exact no

namespace Mirrors

theorem wait (mirrors : desk.Mirrors now limits archive) (order : now.millis ≤ later.millis) :
    desk.Mirrors later limits archive where
  limits_eq := mirrors.limits_eq
  nodup := mirrors.nodup
  archiveNodup := mirrors.archiveNodup
  waiting := by
    have stillWaits : (fun entry : ArchivedApproval => entry.waits later && entry.waits now) =
        fun entry => entry.waits later := by
      funext entry
      simp only [ArchivedApproval.waits, ← Bool.decide_and, decide_eq_decide]
      omega
    have waiting := congrArg (List.filter (·.waits later)) mirrors.waiting
    rwa [ApprovalArchive.waiting, List.filter_filter, List.filter_filter, stillWaits] at waiting
  failures cutoff bound := mirrors.failures cutoff (by omega)

theorem purgeExpired (mirrors : desk.Mirrors now limits archive) :
    (desk.purgeExpired now).Mirrors now limits archive where
  limits_eq := mirrors.limits_eq
  nodup := mirrors.nodup.sublist (purgeExpired_sublist.map _)
  archiveNodup := mirrors.archiveNodup
  waiting := by
    rw [kept_purgeExpired, List.filter_filter]
    simpa using mirrors.waiting
  failures := mirrors.failures

theorem close (mirrors : desk.Mirrors now limits archive) (code : String) :
    (desk.remove code).Mirrors now limits (archive.close code) where
  limits_eq := mirrors.limits_eq
  nodup := mirrors.nodup.sublist (remove_sublist.map _)
  archiveNodup := mirrors.archiveNodup.sublist (List.filter_sublist.map _)
  waiting := by
    rw [kept_remove, List.filter_comm, mirrors.waiting]
    exact List.filter_comm _ _ _
  failures := mirrors.failures

theorem issue (mirrors : desk.Mirrors now limits archive) {intent : Intent} {summary : String} :
    Agree now limits (desk.issue now code intent summary)
      (archive.issue limits now code intent summary) := by
  obtain rfl := mirrors.limits_eq
  have closed := mirrors.purgeExpired.close code
  exact ⟨rfl, {
    limits_eq := rfl
    nodup := nodup_insert mirrors.purgeExpired.nodup
    archiveNodup := by
      rw [ApprovalArchive.issue, List.map_append, List.nodup_append]
      refine ⟨closed.archiveNodup, List.nodup_singleton _, ?_⟩
      intro other member same isCode
      obtain ⟨entry, closedEntry, rfl⟩ := List.mem_map.1 member
      rw [List.map_singleton, List.mem_singleton] at isCode
      simpa [ArchivedApproval.hasCode, isCode] using (List.mem_filter.1 closedEntry).2
    waiting := by
      rw [kept, ApprovalDesk.issue, insert_pending, List.map_append, List.filter_append,
        ApprovalArchive.waiting, ApprovalArchive.issue, List.filter_append]
      exact congrArg (· ++ _) closed.waiting
    failures := closed.failures }⟩

theorem map_listed (mirrors : desk.Mirrors now limits archive) :
    (desk.purgeExpired now).pending.map (ApprovalDesk.listed now) =
      (archive.waiting now).map (·.listed now) := by
  rw [← mirrors.waiting, ← kept_purgeExpired, kept, List.map_map]
  rfl

theorem find?_purgeExpired (mirrors : desk.Mirrors now limits archive) (code : String) :
    ((desk.purgeExpired now).find? code).map (fun approval => archived (code, approval)) =
      (archive.find? code).filter (·.waits now) := by
  rw [← find?_kept, kept_purgeExpired, mirrors.waiting]
  exact ApprovalArchive.find?_waiting mirrors.archiveNodup

/-! ### Failures in the window -/

section Window

variable (forward : 0 ≤ limits.failureWindow)
  (roomy : earliestMillis + limits.failureWindow ≤ now.millis)

include forward roomy

theorem purgeFailures_eq (mirrors : desk.Mirrors now limits archive) :
    desk.purgeFailures now = { desk with
      failures := desk.failures.filter fun time => now.millis - limits.failureWindow < time.millis } := by
  obtain rfl := mirrors.limits_eq
  rw [ApprovalDesk.purgeFailures, Instant.millis_laterOrSame_neg forward roomy]

theorem purgeFailures (mirrors : desk.Mirrors now limits archive) :
    (desk.purgeFailures now).Mirrors now limits archive := by
  rw [mirrors.purgeFailures_eq forward roomy]
  refine { mirrors with failures := fun cutoff bound => ?_ }
  rw [← mirrors.failures cutoff bound, List.countP_filter]
  refine List.countP_congr fun time _ => ?_
  simp only [Bool.and_eq_true, decide_eq_true_eq]
  omega

theorem length_purgeFailures (mirrors : desk.Mirrors now limits archive) :
    (desk.purgeFailures now).failures.length = archive.recentFailures now limits.failureWindow := by
  rw [mirrors.purgeFailures_eq forward roomy, ApprovalArchive.recentFailures,
    ← mirrors.failures _ (Int.le_refl _)]
  exact List.countP_eq_length_filter.symm

theorem fail (mirrors : desk.Mirrors now limits archive) :
    (desk.noteFailure now).Mirrors now limits (archive.fail now) := by
  have purged := mirrors.purgeFailures forward roomy
  refine { purged with failures := fun cutoff bound => ?_ }
  simp only [noteFailure, ApprovalArchive.fail, List.countP_cons, purged.failures cutoff bound]

theorem recordFailure (mirrors : desk.Mirrors now limits archive) :
    (desk.recordFailure now code).Mirrors now limits (archive.recordFailure limits now code) := by
  obtain rfl := mirrors.limits_eq
  exact {
    limits_eq := recordFailure_limits
    nodup := nodup_recordFailure mirrors.nodup
    archiveNodup := by
      refine List.Nodup.sublist (List.filter_sublist.map _) ?_
      rw [List.map_map]
      simpa [Function.comp_def] using mirrors.archiveNodup
    waiting := by
      rw [kept_recordFailure mirrors.nodup, List.filter_comm, ArchivedApproval.filter_waits_map,
        mirrors.waiting, ApprovalArchive.waiting, ← ArchivedApproval.filter_waits_map]
      exact List.filter_comm _ _ _
    failures := by
      rw [recordFailure_failures]
      exact (mirrors.fail forward roomy).failures }

theorem settle (mirrors : desk.Mirrors now limits archive) {approval : PendingApproval}
    (waits : (archived (code, approval)).waits now = true) :
    Agree now limits (desk.settle now code approval intentDigest)
      (archive.settle limits now code (archived (code, approval)) intentDigest) := by
  obtain rfl := mirrors.limits_eq
  have inTime : now.millis ≤ approval.expiresAt.millis := of_decide_eq_true waits
  have ends : approval.expiresAt.millis ≤ now.millis ↔ approval.expiresAt.millis = now.millis := by
    omega
  have closed := mirrors.close code
  rw [ApprovalArchive.settle, if_neg (by exact Int.not_lt.2 inTime)]
  refine Agree.ite UInt32.le_iff_toNat_le ⟨rfl, closed⟩ ?_
  refine Agree.ite ends ⟨rfl, closed⟩ ?_
  exact Agree.ite Iff.rfl ⟨rfl, mirrors.fail forward roomy⟩ ⟨rfl, closed⟩

theorem verify (mirrors : desk.Mirrors now limits archive) :
    Agree now limits (desk.verify now code intentDigest)
      (archive.verify limits now code intentDigest) := by
  have counted := mirrors.purgeFailures forward roomy
  have purged := counted.purgeExpired
  have found := counted.find?_purgeExpired code
  refine Agree.ite ?_ ⟨rfl, counted⟩ ?_
  · rw [counted.limits_eq, mirrors.length_purgeFailures forward roomy]
  cases standing : archive.find? code with
  | none =>
      rw [standing] at found
      rw [Option.map_eq_none_iff.1 found]
      exact ⟨rfl, purged.fail forward roomy⟩
  | some entry =>
      rw [standing, Option.filter_some] at found
      split at found
      · rename_i waits
        obtain ⟨approval, isWaiting, rfl⟩ := Option.map_eq_some_iff.1 found
        rw [isWaiting]
        exact purged.settle forward roomy waits
      · rename_i expired
        rw [Option.map_eq_none_iff.1 found]
        have gone : entry.issued.expiresAt.millis < now.millis := by
          simpa [ArchivedApproval.waits] using expired
        dsimp only
        rw [ApprovalArchive.settle, if_pos gone]
        exact ⟨rfl, purged.fail forward roomy⟩

end Window

end Mirrors

theorem simulation_archive (forward : 0 ≤ limits.failureWindow) :
    Simulation respond (ApprovalArchive.respond limits)
      (fun now => earliestMillis + limits.failureWindow ≤ now.millis)
      fun now desk archive => desk.Mirrors now limits archive where
  wait mirrors order := mirrors.wait order
  step {now desk archive} call roomy mirrors := by
    cases call with
    | issue code intent summary => exact mirrors.issue.imp_left (congrArg _)
    | verify code intentDigest =>
        exact (mirrors.verify forward roomy).imp_left (congrArg _)
    | recordFailure code => exact ⟨rfl, mirrors.recordFailure forward roomy⟩
    | count =>
        refine ⟨congrArg ApprovalAnswer.counted ?_, mirrors.purgeExpired⟩
        rw [← mirrors.waiting, ← kept_purgeExpired, kept, List.length_map]
    | list order =>
        refine ⟨congrArg ApprovalAnswer.listed ?_, mirrors.purgeExpired⟩
        exact congrArg (ListedApproval.arrange order) mirrors.map_listed

theorem mirrors_empty (now : Instant) : (empty limits).Mirrors now limits .empty where
  limits_eq := rfl
  nodup := List.nodup_nil
  archiveNodup := List.nodup_nil
  waiting := rfl
  failures _ _ := rfl

theorem Mirrors.exists_list_eq_iff (mirrors : desk.Mirrors now limits archive)
    {shown : List ListedApproval} :
    (∃ order, (desk.list now order).2 = shown) ↔
      shown.Perm ((archive.waiting now).map (·.listed now)) ∧ ListedApproval.Sorted shown := by
  have nodup : (((archive.waiting now).map (·.listed now)).map (·.code)).Nodup := by
    rw [List.map_map]
    exact mirrors.archiveNodup.sublist (List.filter_sublist.map _)
  change (∃ order, ListedApproval.arrange order ((desk.purgeExpired now).pending.map (listed now)) =
    shown) ↔ _
  rw [mirrors.map_listed]
  exact ListedApproval.exists_arrange_eq_iff nodup

/-- On a clock that never goes back a desk answers like an archive that keeps every failure and never
purges an approval, in whatever order codes are kept. What it may list at an instant is what waits in
the archive, in every order that goes by expiry. -/
theorem isRun_iff_archive {opened : Instant} {log : List ApprovalExchange}
    (forward : 0 ≤ limits.failureWindow) (steady : Steady opened log)
    (roomy : ∀ exchange ∈ log,
      earliestMillis + limits.failureWindow ≤ exchange.time.millis) :
    (respond.IsRun (empty limits) log ↔ (ApprovalArchive.respond limits).IsRun .empty log) ∧
    ∀ now : Instant, (∀ exchange ∈ log, exchange.time.millis ≤ now.millis) → ∀ shown,
      (∃ order, ((respond.after (empty limits) log).list now order).2 = shown) ↔
        shown.Perm ((((ApprovalArchive.respond limits).after .empty log).waiting now).map
          (·.listed now)) ∧ ListedApproval.Sorted shown := by
  have simulation := simulation_archive forward
  refine ⟨simulation.isRun_iff (mirrors_empty opened) steady roomy, fun now past shown => ?_⟩
  have mirrors : (respond.after (empty limits) log).Mirrors now limits
      ((ApprovalArchive.respond limits).after .empty log) := by
    cases log with
    | nil => exact mirrors_empty now
    | cons first later =>
        have order := Int.le_trans steady.uncons.1 (past first List.mem_cons_self)
        exact simulation.related_after (mirrors_empty opened) steady roomy order past
  exact mirrors.exists_list_eq_iff

def twinListing : List ListedApproval :=
  let expiry : Instant := ⟨200000, by decide, by decide⟩
  let digest := (⟨1, default, default, 5, []⟩ : Intent).approvalDigest (expirySecond expiry)
  [⟨"00000099", "payment", digest.short, expiry, 100⟩,
    ⟨"00000042", "payment", digest.short, expiry, 100⟩]

/-- The first code is entered while too many failures count, right when one of them no longer does, and
right at its expiry. -/
def timelyCodes : List ApprovalExchange :=
  let intent : Intent := ⟨1, default, default, 5, []⟩
  let clock (second : Fin 500) : Instant :=
    ⟨second * 1000, by unfold earliestMillis; omega, by unfold latestMillis; omega⟩
  let issue (code : String) : ApprovalExchange :=
    ⟨clock 20, .issue code intent "payment", .issued ⟨code,
      intent.approvalDigest (expirySecond (clock 200)), intent.digest, "payment", clock 200⟩⟩
  [issue "00000042", issue "00000099",
    ⟨clock 30, .recordFailure "00000042", .noted⟩,
    ⟨clock 40, .recordFailure "00000007", .noted⟩,
    ⟨clock 89, .verify "00000042" default, .verified .tooManyFailures⟩,
    ⟨clock 90, .verify "00000007" default, .verified .noSuchCode⟩,
    ⟨clock 100, .list ["00000099", "00000042"], .listed twinListing⟩,
    ⟨clock 200, .count, .counted 2⟩,
    ⟨clock 200, .verify "00000042" default, .verified .expired⟩,
    ⟨clock 200, .count, .counted 1⟩]

def twoFailures : ApprovalLimits := { ApprovalLimits.standard with maxGlobalFailures := 2 }

theorem isRun_timelyCodes :
    respond.IsRun (empty twoFailures) timelyCodes ∧
      (ApprovalArchive.respond twoFailures).IsRun .empty timelyCodes ∧
      ∃ order, ((respond.after (empty twoFailures) (timelyCodes.take 6)).list
        ⟨100000, by decide, by decide⟩ order).2 = twinListing.reverse := by
  have together : ListedApproval.Sorted twinListing := by unfold ListedApproval.Sorted; decide
  have listed : ListedApproval.arrange ["00000099", "00000042"] twinListing.reverse = twinListing :=
    ListedApproval.arrange_map_code (List.reverse_perm _).symm (by decide) together
  have run : respond.IsRun (empty twoFailures) timelyCodes :=
    ⟨rfl, rfl, rfl, rfl, rfl, rfl, congrArg ApprovalAnswer.listed listed.symm, rfl, rfl, rfl, trivial⟩
  have forward : 0 ≤ twoFailures.failureWindow := by decide
  have steady : Steady .epoch timelyCodes := by decide +kernel
  obtain ⟨sameRuns, -⟩ := isRun_iff_archive forward steady (by decide +kernel)
  obtain ⟨-, lists⟩ := isRun_iff_archive forward (steady.take 6) (by decide +kernel)
  have inOrderOfIssue := (lists ⟨100000, by decide, by decide⟩ (by decide +kernel) twinListing.reverse).2
    ⟨.refl _, by unfold ListedApproval.Sorted; decide⟩
  exact ⟨run, sameRuns.1 run, inOrderOfIssue⟩

end ApprovalDesk

end WalletPolicy
