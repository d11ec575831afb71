import WalletPolicy.Proofs.Approval.History

namespace WalletPolicy

namespace ApprovalDesk

variable {limits : ApprovalLimits} {log before between after : List ApprovalExchange}
  {code : String} {now : Instant} {intentDigest approvalDigest : Digest} {summary : String}

theorem respond_verify {desk : ApprovalDesk} :
    (respond desk now (.verify code intentDigest)).2 =
      .verified (desk.verify now code intentDigest).2 := rfl

theorem standing_of_approved (forward : 0 ≤ limits.expiry)
    (run : respond.IsRun (empty limits) (before ++
      ⟨now, .verify code intentDigest, .verified (.approved approvalDigest summary)⟩ :: after)) :
    ∃ intent issuedAt issued failed,
      Standing before intent issuedAt issued failed ∧ issued.code = code ∧
      intent.digest = intentDigest ∧ issued.approvalDigest = approvalDigest ∧
      issued.summary = summary ∧ now.millis < issued.expiresAt.millis ∧
      issued.expiresAt.millis ≤ issuedAt.millis + limits.expiry ∧
      failed < limits.maxFailedPerCode.toNat := by
  have remembers := remembers_after forward run.of_append
  have answered := run.answer_eq
  obtain ⟨-, approval, found, attemptsLeft, inTime, sameCall, sameDigest, sameSummary⟩ :=
    verify_eq_approved_iff.1 (ApprovalAnswer.verified.inj answered).symm
  obtain ⟨intent, issuedAt, standing, issuedFor, expiry⟩ :=
    remembers.standing code approval (purgeExpired_sublist.subset (mem_of_find? found))
  rw [remembers.limits_eq] at attemptsLeft
  exact ⟨intent, issuedAt, _, _, standing, rfl, issuedFor.trans sameCall, sameDigest, sameSummary,
    inTime, expiry, attemptsLeft⟩

theorem exists_of_approves {exchange : ApprovalExchange} (approves : exchange.approves code = true) :
    ∃ now intentDigest approvalDigest summary, exchange =
      ⟨now, .verify code intentDigest, .verified (.approved approvalDigest summary)⟩ := by
  obtain ⟨now, call, answer⟩ := exchange
  unfold Exchange.approves at approves
  split at approves
  · rename_i verified intentDigest outcome isVerify isOutcome
    obtain ⟨same, approved⟩ := Bool.and_eq_true_iff.1 approves
    obtain rfl := beq_iff_eq.1 same
    cases outcome with
    | approved approvalDigest summary =>
        dsimp only at isVerify isOutcome
        exact ⟨now, intentDigest, approvalDigest, summary, by rw [isVerify, isOutcome]⟩
    | _ => cases approved
  · cases approves

theorem eq_or_mem_of_split {past since : List ApprovalExchange} {one two : ApprovalExchange}
    (split : before ++ one :: between = past ++ two :: since) :
    one = two ∨ one ∈ since ∨ two ∈ between := by
  rcases List.append_eq_append_iff.1 split with ⟨rest, -, tail⟩ | ⟨rest, -, tail⟩
  · cases rest with
    | nil => exact .inl (List.cons.inj tail).1
    | cons first rest =>
        refine .inr (.inr ?_)
        rw [(List.cons.inj tail).2]
        exact List.mem_append_right _ List.mem_cons_self
  · cases rest with
    | nil => exact .inl (List.cons.inj tail).1.symm
    | cons first rest =>
        refine .inr (.inl ?_)
        rw [(List.cons.inj tail).2]
        exact List.mem_append_right _ List.mem_cons_self

theorem handsOut_between {one two : ApprovalExchange} (forward : 0 ≤ limits.expiry)
    (run : respond.IsRun (empty limits) (before ++ one :: between ++ two :: after))
    (first : one.approves code = true) (second : two.approves code = true) :
    ∃ exchange ∈ between, exchange.handsOut code = true := by
  obtain ⟨now, intentDigest, approvalDigest, summary, rfl⟩ := exists_of_approves second
  obtain ⟨intent, issuedAt, issued, failed, ⟨past, since, split, quiet, -⟩, rfl, -⟩ :=
    standing_of_approved forward run
  obtain ⟨now, intentDigest, approvalDigest, summary, rfl⟩ := exists_of_approves first
  rcases eq_or_mem_of_split split with same | ended | issuedAgain
  · cases same
  · have stillOpen := (quiet _ ended).2
    simp [Exchange.ends, ApprovalOutcome.ends] at stillOpen
  · exact ⟨_, issuedAgain, by simp [Exchange.handsOut]⟩

/-- An approval is bound to the call that its code was last issued for and to the lifetime of that
issue, and each issue is approved at most once. -/
theorem approved_as_issued (forward : 0 ≤ limits.expiry) (run : respond.IsRun (empty limits) log) :
    (∀ before now code intentDigest approvalDigest summary after,
      log = before ++
        ⟨now, .verify code intentDigest, .verified (.approved approvalDigest summary)⟩ :: after →
      ∃ intent issuedAt issued failed,
        Standing before intent issuedAt issued failed ∧ issued.code = code ∧
        intent.digest = intentDigest ∧ issued.approvalDigest = approvalDigest ∧
        issued.summary = summary ∧ now.millis < issued.expiresAt.millis ∧
        issued.expiresAt.millis ≤ issuedAt.millis + limits.expiry ∧
        failed < limits.maxFailedPerCode.toNat) ∧
    (∀ before one between two after code, log = before ++ one :: between ++ two :: after →
      one.approves code = true → two.approves code = true →
      ∃ exchange ∈ between, exchange.handsOut code = true) := by
  constructor
  · rintro before now code intentDigest approvalDigest summary after rfl
    exact standing_of_approved forward run
  · rintro before one between two after code rfl first second
    exact handsOut_between forward run first second

def reissuedCode : List ApprovalExchange :=
  let intent : Intent := ⟨1, default, default, 5, []⟩
  let clock (second : Fin 1000) : Instant :=
    ⟨second * 1000, by unfold earliestMillis; omega, by unfold latestMillis; omega⟩
  let issue (second : Fin 1000) (summary : String) : ApprovalExchange :=
    ⟨clock second, .issue "00000042" intent summary, .issued ⟨"00000042",
      intent.approvalDigest (expirySecond (clock (second + 180))), intent.digest, summary,
      clock (second + 180)⟩⟩
  [issue 20 "first", issue 30 "second", ⟨clock 40, .recordFailure "00000042", .noted⟩,
    ⟨clock 10, .verify "00000042" intent.digest,
      .verified (.approved (intent.approvalDigest (expirySecond (clock 210))) "second")⟩]

theorem isRun_reissuedCode : respond.IsRun (empty .standard) reissuedCode := by
  unfold reissuedCode
  simp only [Responder.IsRun, and_true]
  refine ⟨rfl, rfl, rfl, ?_⟩
  rw [respond_verify, verify_eq_approved_iff.2]
  exact ⟨by decide, _, rfl, by decide, by decide, rfl, rfl, rfl⟩

theorem approved_reissuedCode : ∃ intent issuedAt issued failed,
    Standing (reissuedCode.take 3) intent issuedAt issued failed ∧ issued.code = "00000042" ∧
      issued.summary = "second" ∧ failed < 3 := by
  obtain ⟨intent, issuedAt, issued, failed, standing, sameCode, -, -, sameSummary, -, -, few⟩ :=
    (approved_as_issued (by decide) isRun_reissuedCode).1 (reissuedCode.take 3) _ _ _ _ _ [] rfl
  exact ⟨intent, issuedAt, issued, failed, standing, sameCode, sameSummary, few⟩

end ApprovalDesk

end WalletPolicy
