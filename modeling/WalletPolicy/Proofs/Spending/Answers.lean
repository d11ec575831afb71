import WalletPolicy.Proofs.Spending.Ledger

/-!
# What a ledger answers

A ledger answers whatever a tracker is asked by going through all its records each time. That a
tracker resets its totals and prunes its transactions never shows (`Tracker.isRun_iff_ledger`).
-/

namespace WalletPolicy

/-! ## Limits -/

/-- A check whose limits are listed in the order in which they are reported, each with whether it is
kept. The first that is not kept decides. -/
def SpendCheck.ofLimits (limits : List (Bool × LimitViolation)) : SpendCheck :=
  match limits.find? fun limit => !limit.1 with
  | none => .allowed
  | some limit => .denied limit.2

theorem SpendCheck.ofLimits_cons {kept broken : Prop} [Decidable kept] [Decidable broken]
    {violation : LimitViolation} {others : List (Bool × LimitViolation)} (exact : kept ↔ ¬ broken) :
    ofLimits ((decide kept, violation) :: others) =
      if broken then .denied violation else ofLimits others := by
  by_cases isBroken : broken <;> simp [ofLimits, exact, isBroken]

namespace SpendingSnapshot

def cooldown (figures : SpendingSnapshot) (profile : Profile) : List (Bool × LimitViolation) :=
  let pause : Int := (min profile.minCooldownSecs.toNat 31536000 : Nat) * 1000
  figures.lastTxAt.toList.map fun last =>
    let elapsed := figures.takenAt.since last
    (pause ≤ elapsed, .cooldown (Int64.ofInt (max (Instant.wholeSeconds (pause - elapsed)) 1)))

def limits (figures : SpendingSnapshot) (native stablecoin : UInt64) (profile : Profile) :
    List (Bool × LimitViolation) :=
  (native ≤ profile.perTxNativeCap, .perTxNative native profile.perTxNativeCap) ::
  (stablecoin ≤ profile.perTxStablecoinCap,
    .perTxStablecoin stablecoin profile.perTxStablecoinCap) ::
  (min (native.toNat + figures.nativeSpent.toNat) Amount.greatest ≤ profile.dailyNativeCap.toNat,
    .dailyNative figures.nativeSpent native profile.dailyNativeCap) ::
  (min (stablecoin.toNat + figures.stablecoinSpent.toNat) Amount.greatest ≤
      profile.dailyStablecoinCap.toNat,
    .dailyStablecoin figures.stablecoinSpent stablecoin profile.dailyStablecoinCap) ::
  (figures.txLastHour < profile.maxTxPerHour.toNat,
    .hourlyRate (Amount.saturate figures.txLastHour) profile.maxTxPerHour) ::
  figures.cooldown profile

end SpendingSnapshot

/-! ## Answers -/

namespace Ledger

def figures (ledger : Ledger) (now : Instant) : SpendingSnapshot where
  day := now.day
  nativeSpent := Amount.saturate (ledger.totalOn (·.native) now.day)
  stablecoinSpent := Amount.saturate (ledger.totalOn (·.stablecoin) now.day)
  txLastHour := ledger.countAfter (now.millis - hourMillis)
  lastTxAt := ledger.getLast?.map (·.time)
  takenAt := now

def respond : Responder Ledger SpendingCall SpendingAnswer := fun ledger now call =>
  let figures := ledger.figures now
  match call with
  | .check native stablecoin profile =>
    (ledger, .checked (.ofLimits (figures.limits native stablecoin profile)))
  | .record native stablecoin => (ledger ++ [⟨now, native, stablecoin⟩], .recorded)
  | .snapshot => (ledger, .figures figures)
  | .budgets profile =>
    (ledger, .left {
      native := Amount.sub profile.dailyNativeCap figures.nativeSpent
      stablecoin := Amount.sub profile.dailyStablecoinCap figures.stablecoinSpent })

theorem respond_fst {ledger : Ledger} {now : Instant} {call : SpendingCall} :
    (ledger.respond now call).1 =
      ledger ++ (⟨now, call, .recorded⟩ : SpendingExchange).record?.toList := by
  cases call <;> simp [respond, Exchange.record?]

end Ledger

namespace Tracker

variable {tracker : Tracker} {ledger : Ledger} {now opened : Instant} {native stablecoin : UInt64}
  {profile : Profile} {log : List SpendingExchange}

theorem ofLimits_cooldown :
    SpendCheck.ofLimits ((tracker.figures now).cooldown profile) =
      match tracker.cooldownLeft? now profile with
      | some remaining => .denied (.cooldown remaining)
      | none => .allowed := by
  unfold SpendingSnapshot.cooldown figures cooldownLeft?
  cases tracker.lastTx with
  | none => rfl
  | some last =>
      have exact : cooldownMillis profile ≤ now.since last ↔
          ¬ 0 < cooldownMillis profile - now.since last := by omega
      refine (SpendCheck.ofLimits_cons exact).trans ?_
      dsimp only
      split <;> rfl

theorem judge_eq_ofLimits :
    tracker.judge now native stablecoin profile =
      .ofLimits ((tracker.figures now).limits native stablecoin profile) := by
  have daily (spent amount cap : UInt64) :
      min (amount.toNat + spent.toNat) Amount.greatest ≤ cap.toNat ↔ ¬ cap < Amount.add spent amount := by
    rw [UInt64.lt_iff_toNat_lt, Amount.toNat_add, Nat.add_comm, Nat.not_lt]
  rw [judge, SpendingSnapshot.limits, SpendCheck.ofLimits_cons UInt64.not_lt.symm,
    SpendCheck.ofLimits_cons UInt64.not_lt.symm, SpendCheck.ofLimits_cons (daily _ _ _),
    SpendCheck.ofLimits_cons (daily _ _ _), SpendCheck.ofLimits_cons Nat.not_le.symm,
    ofLimits_cooldown]
  rfl

theorem budgets_eq_rollOver :
    tracker.budgets now profile =
      ⟨Amount.sub profile.dailyNativeCap (tracker.rollOver now).nativeSpent,
        Amount.sub profile.dailyStablecoinCap (tracker.rollOver now).stablecoinSpent⟩ := by
  have unspent (cap : UInt64) : Amount.sub cap 0 = cap := by
    rw [← UInt64.toNat_inj, Amount.toNat_sub, UInt64.toNat_zero, Nat.sub_zero]
  unfold budgets rollOver
  split
  · rw [unspent, unspent]
  · rfl

namespace Follows

theorem spent_rollOver (follows : tracker.Follows ledger now) :
    (tracker.rollOver now).nativeSpent = (ledger.figures now).nativeSpent ∧
      (tracker.rollOver now).stablecoinSpent = (ledger.figures now).stablecoinSpent := by
  have rolled := follows.rollOver
  rw [← UInt64.toNat_inj, ← UInt64.toNat_inj, rolled.native, rolled.stablecoin,
    follows.rollOver_day, Ledger.figures, Amount.toNat_saturate, Amount.toNat_saturate]
  exact ⟨rfl, rfl⟩

theorem figures_refresh (follows : tracker.Follows ledger now)
    (roomy : earliestMillis + hourMillis ≤ now.millis) :
    (tracker.refresh now).figures now = ledger.figures now := by
  obtain ⟨native, stablecoin⟩ := follows.spent_rollOver
  rw [figures, follows.refresh_day roomy, follows.refresh_recent_length roomy,
    (follows.refresh roomy).lastTx, Tracker.refresh, prune_eq roomy, native, stablecoin]
  rfl

theorem answer_eq (follows : tracker.Follows ledger now)
    (roomy : earliestMillis + hourMillis ≤ now.millis) (call : SpendingCall) :
    (respond tracker now call).2 = (ledger.respond now call).2 := by
  cases call with
  | check native stablecoin profile =>
      simp only [respond, check, Ledger.respond, judge_eq_ofLimits, follows.figures_refresh roomy]
  | record native stablecoin => rfl
  | snapshot => simp only [respond, snapshot, Ledger.respond, follows.figures_refresh roomy]
  | budgets profile =>
      obtain ⟨native, stablecoin⟩ := follows.spent_rollOver
      simp only [respond, Ledger.respond, budgets_eq_rollOver, native, stablecoin]

end Follows

theorem simulation_ledger :
    Simulation respond Ledger.respond (fun now => earliestMillis + hourMillis ≤ now.millis)
      fun now tracker ledger => tracker.Follows ledger now where
  wait follows order := follows.wait order
  step {now tracker ledger} call roomy follows := by
    have next : (respond.next tracker ⟨now, call, .recorded⟩).Follows _ now := follows.next roomy rfl
    rw [← Ledger.respond_fst] at next
    exact ⟨follows.answer_eq roomy call, next⟩

/-- On a clock that never goes back a tracker answers like a ledger that keeps every record, never
resets and never prunes. -/
theorem isRun_iff_ledger (steady : Steady opened log)
    (roomy : ∀ exchange ∈ log, earliestMillis + hourMillis ≤ exchange.time.millis) :
    respond.IsRun (start opened) log ↔ Ledger.respond.IsRun [] log :=
  simulation_ledger.isRun_iff (follows_start opened) steady roomy

def aroundMidnight : List SpendingExchange :=
  let profile : Profile := ⟨"narrow", 60, 100, 7, 9, 2, 3600, 50⟩
  let hour (count : Fin 100) : Instant :=
    ⟨count * 3600000, by unfold earliestMillis; omega, by unfold latestMillis; omega⟩
  [⟨hour 23, .record 60 5, .recorded⟩,
    ⟨hour 23, .check 50 0 profile, .checked (.denied (.dailyNative 60 50 100))⟩,
    ⟨hour 23, .check 40 0 profile, .checked (.denied (.cooldown 3600))⟩,
    ⟨hour 24, .budgets profile, .left ⟨100, 9⟩⟩,
    ⟨hour 24, .check 60 7 profile, .checked .allowed⟩,
    ⟨hour 24, .record 60 7, .recorded⟩,
    ⟨hour 24, .snapshot, .figures ⟨1, 60, 7, 1, some (hour 24), hour 24⟩⟩,
    ⟨hour 24, .record 30 0, .recorded⟩,
    ⟨hour 24, .check 5 0 profile, .checked (.denied (.hourlyRate 2 2))⟩,
    ⟨hour 72, .snapshot, .figures ⟨3, 0, 0, 0, some (hour 24), hour 72⟩⟩]

theorem isRun_aroundMidnight :
    respond.IsRun (start .epoch) aroundMidnight ∧ Ledger.respond.IsRun [] aroundMidnight := by
  have run : respond.IsRun (start .epoch) aroundMidnight := by decide +kernel
  exact ⟨run, (isRun_iff_ledger (by decide +kernel) (by decide +kernel)).1 run⟩

end Tracker

end WalletPolicy
