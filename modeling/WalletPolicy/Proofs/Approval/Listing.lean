import WalletPolicy.Proofs.Approval.Archive

/-!
# What is listed can be verified

The list decides whether a code is alive by its expiry alone, a verification by its failed attempts
as well, and at the very expiry they differ. That they agree on reachable desks is due to an
invariant of every run (`ApprovalDesk.wellKept_after`).
-/

namespace WalletPolicy

/-! ## The latest issue of a code -/

def Exchange.issue? (code : String) (exchange : ApprovalExchange) : Option IssuedApproval :=
  match exchange.answer with
  | .issued approval => if approval.code = code then some approval else none
  | _ => none

def latestIssue? (log : List ApprovalExchange) (code : String) : Option IssuedApproval :=
  log.reverse.findSome? (Exchange.issue? code)

theorem latestIssue?_snoc {log : List ApprovalExchange} {exchange : ApprovalExchange}
    {code : String} :
    latestIssue? (log ++ [exchange]) code = (exchange.issue? code).or (latestIssue? log code) := by
  unfold latestIssue?
  rw [List.reverse_append, List.reverse_singleton, List.singleton_append, List.findSome?_cons]
  cases exchange.issue? code <;> rfl

structure ListedApproval.Shows (listed : ListedApproval) (now : Instant) (issued : IssuedApproval) :
    Prop where
  summary : listed.summary = issued.summary
  digestStart : listed.digestStart = issued.approvalDigest.short
  expiresAt : listed.expiresAt = issued.expiresAt
  inTime : 0 ≤ issued.expiresAt.since now
  expiresInSecs : listed.expiresInSecs = issued.expiresAt.since now / secondMillis

namespace ApprovalDesk

variable {desk : ApprovalDesk} {limits : ApprovalLimits} {log : List ApprovalExchange}
  {now : Instant} {code : String} {intentDigest : Digest} {exchange : ApprovalExchange}
  {entry : String × PendingApproval} {order : List String}

/-! ## The invariant -/

theorem cases_of_mem_issue {intent : Intent} {summary : String}
    (member : entry ∈ (desk.issue now code intent summary).1.pending) :
    (entry ∈ desk.pending ∧ entry.1 ≠ code) ∨
      (entry.1 = code ∧ entry.2.failedAttempts = 0 ∧
        entry.2.asIssued code = (desk.issue now code intent summary).2) := by
  rcases List.mem_append.1 member with waits | isNew
  · obtain ⟨wasWaiting, notCode⟩ := mem_remove_iff.1 waits
    exact .inl ⟨purgeExpired_sublist.subset wasWaiting, notCode⟩
  · rw [List.mem_singleton.1 isNew]
    exact .inr ⟨rfl, rfl, rfl⟩

/-- A code that waits has attempts left, and waits as it was issued last. -/
structure WellKept (desk : ApprovalDesk) (limits : ApprovalLimits) (log : List ApprovalExchange) :
    Prop where
  limits_eq : desk.limits = limits
  nodup : (desk.pending.map Prod.fst).Nodup
  attemptsLeft : ∀ entry ∈ desk.pending, entry.2.failedAttempts < limits.maxFailedPerCode
  issued : ∀ entry ∈ desk.pending, latestIssue? log entry.1 = some (entry.2.asIssued entry.1)

theorem wellKept_empty (limits : ApprovalLimits) : (empty limits).WellKept limits [] where
  limits_eq := rfl
  nodup := List.nodup_nil
  attemptsLeft _ member := absurd member List.not_mem_nil
  issued _ member := absurd member List.not_mem_nil

namespace WellKept

theorem forget (kept : desk.WellKept limits log) {later : ApprovalDesk}
    (sameLimits : later.limits = desk.limits) (fewer : later.pending.Sublist desk.pending)
    (quiet : ∀ code, exchange.issue? code = none) : later.WellKept limits (log ++ [exchange]) where
  limits_eq := sameLimits.trans kept.limits_eq
  nodup := kept.nodup.sublist (fewer.map _)
  attemptsLeft entry member := kept.attemptsLeft entry (fewer.subset member)
  issued entry member := by
    rw [latestIssue?_snoc, quiet]
    exact kept.issued entry (fewer.subset member)

theorem issue (kept : desk.WellKept limits log) (positive : 0 < limits.maxFailedPerCode)
    {intent : Intent} {summary : String} :
    (desk.issue now code intent summary).1.WellKept limits
      (log ++ [⟨now, .issue code intent summary,
        .issued (desk.issue now code intent summary).2⟩]) := by
  have purged : (desk.purgeExpired now).pending.Sublist desk.pending := purgeExpired_sublist
  refine ⟨kept.limits_eq, nodup_insert (kept.nodup.sublist (purged.map _)), ?_, ?_⟩
  · intro entry member
    rcases cases_of_mem_issue member with ⟨wasWaiting, -⟩ | ⟨-, fresh, -⟩
    · exact kept.attemptsLeft entry wasWaiting
    · rwa [fresh]
  · intro entry member
    rw [latestIssue?_snoc]
    rcases cases_of_mem_issue member with ⟨wasWaiting, notCode⟩ | ⟨isCode, -, same⟩
    · rw [kept.issued entry wasWaiting, Exchange.issue?]
      exact congrArg (Option.or · _) (if_neg (Ne.symm notCode))
    · rw [isCode, same, Exchange.issue?]
      exact congrArg (Option.or · _) (if_pos rfl)

theorem recordFailure (kept : desk.WellKept limits log) :
    (desk.recordFailure now code).WellKept limits
      (log ++ [⟨now, .recordFailure code, .noted⟩]) := by
  refine ⟨recordFailure_limits.trans kept.limits_eq, nodup_recordFailure kept.nodup, ?_, ?_⟩
  · intro entry member
    rw [recordFailure_pending_eq_filter kept.nodup, List.mem_filter] at member
    -- An entry that the attempt has used up is gone, so the others have attempts left.
    obtain ⟨counted, notUsedUp⟩ := member
    obtain ⟨old, waits, rfl⟩ := List.mem_map.1 counted
    by_cases isCode : old.1 = code
    · rw [countAttempt, if_pos isCode] at notUsedUp ⊢
      rw [kept.limits_eq] at notUsedUp
      simpa [isCode, UInt32.not_le] using notUsedUp
    · rw [countAttempt, if_neg isCode]
      exact kept.attemptsLeft old waits
  · intro entry member
    obtain ⟨attempts, waits, -⟩ := exists_of_mem_recordFailure kept.nodup member
    have asBefore := kept.issued _ waits
    rw [latestIssue?_snoc]
    exact asBefore

theorem next (kept : desk.WellKept limits log) (positive : 0 < limits.maxFailedPerCode)
    (answered : exchange.answer = (respond desk exchange.time exchange.call).2) :
    (respond.next desk exchange).WellKept limits (log ++ [exchange]) := by
  obtain ⟨now, call, answer⟩ := exchange
  dsimp only at answered
  subst answered
  unfold Responder.next
  cases call with
  | issue code intent summary => exact kept.issue positive
  | verify code intentDigest => exact kept.forget verify_limits verify_sublist fun _ => rfl
  | recordFailure code => exact kept.recordFailure
  | count => exact kept.forget rfl purgeExpired_sublist fun _ => rfl
  | list => exact kept.forget rfl purgeExpired_sublist fun _ => rfl

end WellKept

theorem wellKept_after (positive : 0 < limits.maxFailedPerCode)
    (run : respond.IsRun (empty limits) log) :
    (respond.after (empty limits) log).WellKept limits log := by
  induction log using List.reverseRecOn with
  | nil => exact wellKept_empty limits
  | append_singleton earlier exchange ih =>
      rw [Responder.after_append_singleton]
      exact (ih run.of_append).next positive run.answer_eq

/-! ## Verification -/

theorem verify_own {approval : PendingApproval}
    (few : (desk.purgeFailures now).failures.length < desk.limits.maxGlobalFailures)
    (found : (desk.purgeExpired now).find? code = some approval)
    (attemptsLeft : approval.failedAttempts < desk.limits.maxFailedPerCode) :
    (desk.verify now code approval.intentDigest).2 =
      if approval.expiresAt.millis ≤ now.millis then .expired
      else .approved approval.approvalDigest approval.summary := by
  rw [verify_of_few few, found]
  dsimp only
  rw [settle, purgeExpired_limits, purgeFailures_limits, if_neg (UInt32.not_le.2 attemptsLeft)]
  split
  · rfl
  · rw [if_neg (not_not_intro rfl)]

/-! ## The list -/

theorem mem_purgeExpired_iff : entry ∈ (desk.purgeExpired now).pending ↔
    entry ∈ desk.pending ∧ now.millis ≤ entry.2.expiresAt.millis := by
  simp [purgeExpired]

theorem list_perm (desk : ApprovalDesk) (now : Instant) (order : List String) :
    (desk.list now order).2.Perm ((desk.purgeExpired now).pending.map (listed now)) :=
  ListedApproval.arrange_perm order _

theorem map_code_list_perm :
    ((desk.list now order).2.map (·.code)).Perm ((desk.purgeExpired now).pending.map Prod.fst) := by
  have codes := (list_perm desk now order).map (·.code)
  rwa [List.map_map] at codes

theorem length_list : (desk.list now order).2.length = (desk.count now).2 :=
  (list_perm desk now order).length_eq.trans (List.length_map _)

theorem shows_listed (inTime : now.millis ≤ entry.2.expiresAt.millis) :
    (listed now entry).Shows now (entry.2.asIssued entry.1) where
  summary := rfl
  digestStart := rfl
  expiresAt := rfl
  inTime := Int.sub_nonneg_of_le inTime
  expiresInSecs := by
    have span : 0 ≤ entry.2.expiresAt.since now := Int.sub_nonneg_of_le inTime
    have whole : Instant.wholeSeconds (entry.2.expiresAt.since now) =
        entry.2.expiresAt.since now / secondMillis := Int.tdiv_eq_ediv_of_nonneg span
    change max (Instant.wholeSeconds _) 0 = _
    rw [whole]
    exact Int.max_eq_left (Int.ediv_nonneg span (by decide))

theorem WellKept.issue_of_mem_list (kept : desk.WellKept limits log)
    (few : (desk.purgeFailures now).failures.length < desk.limits.maxGlobalFailures)
    {shown : ListedApproval} (member : shown ∈ (desk.list now order).2) :
    ∃ issued, latestIssue? log shown.code = some issued ∧ shown.Shows now issued ∧
      let outcome := (desk.verify now shown.code issued.intentDigest).2
      (outcome = .approved issued.approvalDigest issued.summary ∨
        outcome = .expired ∧ issued.expiresAt = now) := by
  obtain ⟨entry, waits, rfl⟩ := List.mem_map.1 ((list_perm desk now order).mem_iff.1 member)
  obtain ⟨wasWaiting, inTime⟩ := mem_purgeExpired_iff.1 waits
  have found := find?_eq_some_of_mem (kept.nodup.sublist (purgeExpired_sublist.map _)) waits
  have own := verify_own few found (kept.limits_eq ▸ kept.attemptsLeft entry wasWaiting)
  refine ⟨_, kept.issued entry wasWaiting, shows_listed inTime, ?_⟩
  by_cases isOver : entry.2.expiresAt.millis ≤ now.millis
  · rw [if_pos isOver] at own
    exact .inr ⟨own, Instant.ext (Int.le_antisymm isOver inTime)⟩
  · rw [if_neg isOver] at own
    exact .inl own

theorem mem_list_of_verify
    (few : (desk.purgeFailures now).failures.length < desk.limits.maxGlobalFailures)
    (redeems : (desk.verify now code intentDigest).2.ends = true) :
    code ∈ (desk.list now order).2.map (·.code) := by
  rw [verify_of_few few] at redeems
  cases found : (desk.purgeExpired now).find? code with
  | none => rw [found] at redeems; cases redeems
  | some approval => exact map_code_list_perm.mem_iff.2 (List.mem_map_of_mem (mem_of_find? found))

/-- On a reachable desk that verifies at an instant, a list of that instant has each code at most once,
in an order of expiry, and as many as are counted. It has a code if and only if the call that
the code was issued for last would be approved right now, or is told that the code expires right
now. What is listed of a code is what was issued and what an approval would carry. -/
theorem list_agrees_with_verify (positive : 0 < limits.maxFailedPerCode)
    (run : respond.IsRun (empty limits) log)
    (unlimited : ∃ code intentDigest,
      ((respond.after (empty limits) log).verify now code intentDigest).2 ≠ .tooManyFailures)
    (order : List String) :
    let desk := respond.after (empty limits) log
    let listing := (desk.list now order).2
    (listing.map (·.code)).Nodup ∧
      listing.Pairwise (fun one two => one.expiresAt.millis ≤ two.expiresAt.millis) ∧
      listing.length = (desk.count now).2 ∧
      (∀ code, code ∈ listing.map (·.code) ↔
        ∃ issued, latestIssue? log code = some issued ∧
          let outcome := (desk.verify now code issued.intentDigest).2
          (outcome.isApproved = true ∨ outcome = .expired ∧ issued.expiresAt = now)) ∧
      ∀ shown ∈ listing, ∃ issued, latestIssue? log shown.code = some issued ∧
        shown.Shows now issued ∧
        let outcome := (desk.verify now shown.code issued.intentDigest).2
        (outcome = .approved issued.approvalDigest issued.summary ∨
          outcome = .expired ∧ issued.expiresAt = now) := by
  intro desk listing
  obtain ⟨code, intentDigest, unlimited⟩ := unlimited
  have few := few_of_verify_ne unlimited
  have kept : desk.WellKept limits log := wellKept_after positive run
  have shows := fun shown (member : shown ∈ listing) => kept.issue_of_mem_list few member
  refine ⟨?nodup, ListedApproval.sorted_arrange, length_list, fun code => ⟨?listed, ?redeemed⟩, shows⟩
  case nodup =>
    exact map_code_list_perm.nodup_iff.2 (kept.nodup.sublist (purgeExpired_sublist.map _))
  case listed =>
    intro isListed
    obtain ⟨shown, member, rfl⟩ := List.mem_map.1 isListed
    obtain ⟨issued, latest, -, approved | expired⟩ := shows shown member
    · exact ⟨issued, latest, .inl (congrArg ApprovalOutcome.isApproved approved)⟩
    · exact ⟨issued, latest, .inr expired⟩
  case redeemed =>
    rintro ⟨issued, -, redeems⟩
    have ends : (desk.verify now code issued.intentDigest).2.ends = true := by
      rcases redeems with approved | ⟨expired, -⟩
      · cases outcome : (desk.verify now code issued.intentDigest).2 with
        | approved => rfl
        | _ => rw [outcome] at approved; cases approved
      · rw [expired]
        rfl
    exact mem_list_of_verify few ends

def overlappingCodes : List ApprovalExchange :=
  let clock (second : Fin 400) : Instant :=
    ⟨second * 1000, by unfold earliestMillis; omega, by unfold latestMillis; omega⟩
  let issue (second : Fin 400) (code : String) (intent : Intent) (summary : String) :
      ApprovalExchange :=
    ⟨clock second, .issue code intent summary, .issued ⟨code,
      intent.approvalDigest (expirySecond (clock (second + 180))), intent.digest, summary,
      clock (second + 180)⟩⟩
  [issue 20 "00000042" ⟨1, default, default, 5, []⟩ "first",
    issue 30 "00000007" ⟨1, default, default, 6, []⟩ "other",
    issue 40 "00000042" ⟨1, default, default, 7, []⟩ "second",
    ⟨clock 50, .recordFailure "00000042", .noted⟩]

theorem list_agrees_with_verify_overlappingCodes :
    let desk := respond.after (empty .standard) overlappingCodes
    let now : Instant := ⟨210000, by decide, by decide⟩
    let listing := (desk.list now ["00000042"]).2
    (desk.verify now "00000007" default).2 = .expired ∧
      "00000007" ∈ listing.map (·.code) ∧ listing.length = 2 ∧
      ∀ shown ∈ listing, shown.code = "00000042" →
        shown.summary = "second" ∧ shown.expiresInSecs = 10 := by
  intro desk now listing
  have run : respond.IsRun (empty .standard) overlappingCodes := ⟨rfl, rfl, rfl, rfl, trivial⟩
  have expired (intentDigest : Digest) :
      (desk.verify now "00000007" intentDigest).2 = .expired := rfl
  have unlimited : ∃ code intentDigest,
      (desk.verify now code intentDigest).2 ≠ .tooManyFailures :=
    ⟨"00000007", default, fun limited => nomatch (expired default).symm.trans limited⟩
  obtain ⟨-, -, count, listed_iff, shows⟩ := list_agrees_with_verify (by decide) run unlimited _
  refine ⟨expired default, (listed_iff "00000007").2 ⟨_, rfl, .inr ⟨expired _, rfl⟩⟩, count, ?_⟩
  intro shown member isCode
  obtain ⟨issued, latest, shows, -⟩ := shows shown member
  rw [isCode] at latest
  rw [shows.summary, shows.expiresInSecs, ← Option.some.inj latest]
  exact ⟨rfl, by decide +kernel⟩

end ApprovalDesk

end WalletPolicy
