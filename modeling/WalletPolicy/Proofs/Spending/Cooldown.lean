import WalletPolicy.Proofs.Spending.Ledger

/-!
# Waiting for a cooldown

A check that a cooldown refuses names the seconds to wait, rounded down and at least one. While
nothing is recorded the other limits only get easier to keep (`Tracker.easesTo_after`), so the
cooldown alone decides when the same check is allowed.
-/

namespace WalletPolicy.Tracker

variable {tracker eased further : Tracker} {last now later : Instant} {native stablecoin : UInt64}
  {profile : Profile} {remaining : Int64}

/-! ## Without records -/

structure EasesTo (tracker eased : Tracker) : Prop where
  native : eased.nativeSpent ≤ tracker.nativeSpent
  stablecoin : eased.stablecoinSpent ≤ tracker.stablecoinSpent
  recent : eased.recent.length ≤ tracker.recent.length
  lastTx : eased.lastTx = tracker.lastTx

namespace EasesTo

theorem refl (tracker : Tracker) : tracker.EasesTo tracker :=
  ⟨UInt64.le_refl _, UInt64.le_refl _, Nat.le_refl _, rfl⟩

theorem trans (first : tracker.EasesTo eased) (second : eased.EasesTo further) :
    tracker.EasesTo further where
  native := UInt64.le_trans second.native first.native
  stablecoin := UInt64.le_trans second.stablecoin first.stablecoin
  recent := Nat.le_trans second.recent first.recent
  lastTx := second.lastTx.trans first.lastTx

end EasesTo

theorem easesTo_rollOver : tracker.EasesTo (tracker.rollOver now) := by
  unfold rollOver
  split
  · exact ⟨UInt64.zero_le, UInt64.zero_le, Nat.le_refl _, rfl⟩
  · exact .refl tracker

theorem easesTo_prune : tracker.EasesTo (tracker.prune now) :=
  ⟨UInt64.le_refl _, UInt64.le_refl _, List.length_filter_le _ _, rfl⟩

theorem easesTo_refresh : tracker.EasesTo (tracker.refresh now) :=
  easesTo_rollOver.trans easesTo_prune

theorem easesTo_next {exchange : SpendingExchange} (unrecorded : exchange.record? = none) :
    tracker.EasesTo (respond.next tracker exchange) := by
  obtain ⟨time, call, answer⟩ := exchange
  cases call with
  | check => exact easesTo_refresh
  | record => cases unrecorded
  | snapshot => exact easesTo_refresh
  | budgets => exact .refl tracker

theorem easesTo_after {log : List SpendingExchange}
    (unrecorded : ∀ exchange ∈ log, exchange.record? = none) :
    tracker.EasesTo (respond.after tracker log) := by
  induction log using List.reverseRecOn with
  | nil => exact .refl tracker
  | append_singleton earlier exchange ih =>
      simp only [List.forall_mem_append, List.forall_mem_singleton] at unrecorded
      rw [Responder.after_append_singleton]
      exact (ih unrecorded.1).trans (easesTo_next unrecorded.2)

/-! ## What a cooldown leaves -/

structure KeepsOthers (tracker : Tracker) (native stablecoin : UInt64) (profile : Profile) :
    Prop where
  perTxNative : native ≤ profile.perTxNativeCap
  perTxStablecoin : stablecoin ≤ profile.perTxStablecoinCap
  dailyNative : Amount.add tracker.nativeSpent native ≤ profile.dailyNativeCap
  dailyStablecoin : Amount.add tracker.stablecoinSpent stablecoin ≤ profile.dailyStablecoinCap
  hourlyRate : tracker.recent.length < profile.maxTxPerHour.toNat

theorem judge_of_keepsOthers (keeps : tracker.KeepsOthers native stablecoin profile) :
    tracker.judge now native stablecoin profile =
      match tracker.cooldownLeft? now profile with
      | some remaining => .denied (.cooldown remaining)
      | none => .allowed := by
  cases left : tracker.cooldownLeft? now profile
  all_goals rw [judge, if_neg (UInt64.not_lt.2 keeps.perTxNative),
    if_neg (UInt64.not_lt.2 keeps.perTxStablecoin), if_neg (UInt64.not_lt.2 keeps.dailyNative),
    if_neg (UInt64.not_lt.2 keeps.dailyStablecoin), if_neg (Nat.not_le.2 keeps.hourlyRate), left]

theorem keepsOthers_of_judge_eq_cooldown
    (refused : tracker.judge now native stablecoin profile = .denied (.cooldown remaining)) :
    tracker.KeepsOthers native stablecoin profile ∧
      tracker.cooldownLeft? now profile = some remaining := by
  unfold judge at refused
  repeat' split at refused
  all_goals cases refused
  -- Of the refusals only the last one names a cooldown.
  rename_i perTxNative perTxStablecoin dailyNative dailyStablecoin hourlyRate _ left
  exact ⟨⟨UInt64.not_lt.1 perTxNative, UInt64.not_lt.1 perTxStablecoin, UInt64.not_lt.1 dailyNative,
    UInt64.not_lt.1 dailyStablecoin, Nat.not_le.1 hourlyRate⟩, left⟩

theorem add_le_of_le {spent less amount cap : UInt64} (order : less ≤ spent)
    (fits : Amount.add spent amount ≤ cap) : Amount.add less amount ≤ cap := by
  rw [UInt64.le_iff_toNat_le, Amount.toNat_add] at fits ⊢
  rw [UInt64.le_iff_toNat_le] at order
  omega

theorem KeepsOthers.of_eases (keeps : tracker.KeepsOthers native stablecoin profile)
    (eases : tracker.EasesTo eased) : eased.KeepsOthers native stablecoin profile where
  perTxNative := keeps.perTxNative
  perTxStablecoin := keeps.perTxStablecoin
  dailyNative := add_le_of_le eases.native keeps.dailyNative
  dailyStablecoin := add_le_of_le eases.stablecoin keeps.dailyStablecoin
  hourlyRate := Nat.lt_of_le_of_lt eases.recent keeps.hourlyRate

def millisLeft (profile : Profile) (last now : Instant) : Int :=
  cooldownMillis profile - now.since last

theorem cooldownLeft?_of_lastTx (isLast : tracker.lastTx = some last) :
    tracker.cooldownLeft? now profile =
      if 0 < millisLeft profile last now then
        some (Int64.ofInt (max (Instant.wholeSeconds (millisLeft profile last now)) 1))
      else none := by
  rw [cooldownLeft?, isLast]
  rfl

theorem toInt_secondsLeft (active : 0 < millisLeft profile last now) :
    (Int64.ofInt (max (Instant.wholeSeconds (millisLeft profile last now)) 1)).toInt =
      max (millisLeft profile last now / secondMillis) 1 := by
  have rounded : Instant.wholeSeconds (millisLeft profile last now) =
      millisLeft profile last now / secondMillis :=
    Int.tdiv_eq_ediv_of_nonneg (Int.le_of_lt active)
  have latest := last.le_latest
  have earliest := now.earliest_le
  -- However far apart the two instants are, the seconds between them fit into 64 bits.
  have bounded : millisLeft profile last now ≤ 2 ^ 60 := by
    unfold millisLeft cooldownMillis Instant.since longestCooldownSecs secondMillis
    unfold latestMillis at latest
    unfold earliestMillis at earliest
    omega
  rw [rounded, Int64.toInt_ofInt_of_le]
  all_goals unfold secondMillis; omega

theorem millisLeft_later (now : Instant) :
    millisLeft profile last later = millisLeft profile last now - later.since now := by
  unfold millisLeft Instant.since
  omega

theorem millisLeft_after_wait (active : 0 < millisLeft profile last now)
    (waits : later.since now = max (millisLeft profile last now / secondMillis) 1 * secondMillis) :
    (0 < millisLeft profile last later ↔
      ¬ (millisLeft profile last now ≤ secondMillis ∨ secondMillis ∣ now.since last)) ∧
    millisLeft profile last later < secondMillis := by
  -- A cooldown is of whole seconds, so what is left is if the time since the last transaction is.
  have whole : secondMillis ∣ millisLeft profile last now ↔ secondMillis ∣ now.since last := by
    unfold millisLeft cooldownMillis secondMillis
    omega
  rw [← whole, millisLeft_later now, waits]
  unfold secondMillis
  omega

/-! ## The wait -/

theorem check_of_eases (keeps : tracker.KeepsOthers native stablecoin profile)
    (eases : tracker.EasesTo eased) (isLast : tracker.lastTx = some last) :
    (eased.check now native stablecoin profile).2 =
      if 0 < millisLeft profile last now then
        .denied
          (.cooldown (Int64.ofInt (max (Instant.wholeSeconds (millisLeft profile last now)) 1)))
      else .allowed := by
  have refreshed : tracker.EasesTo (eased.refresh now) := eases.trans easesTo_refresh
  rw [check, judge_of_keepsOthers (keeps.of_eases refreshed),
    cooldownLeft?_of_lastTx (refreshed.lastTx.trans isLast)]
  by_cases active : 0 < millisLeft profile last now
  · rw [if_pos active, if_pos active]
  · rw [if_neg active, if_neg active]

theorem exists_of_check_eq_cooldown
    (refused : (tracker.check now native stablecoin profile).2 = .denied (.cooldown remaining)) :
    (tracker.refresh now).KeepsOthers native stablecoin profile ∧
      ∃ last, tracker.lastTx = some last ∧ 0 < millisLeft profile last now ∧
        remaining.toInt = max (millisLeft profile last now / secondMillis) 1 := by
  obtain ⟨keeps, left⟩ := keepsOthers_of_judge_eq_cooldown refused
  refine ⟨keeps, ?_⟩
  cases isLast : tracker.lastTx with
  | none =>
      rw [cooldownLeft?, easesTo_refresh.lastTx, isLast] at left
      cases left
  | some last =>
      rw [cooldownLeft?_of_lastTx (easesTo_refresh.lastTx.trans isLast)] at left
      split at left
      · rename_i active
        rw [← Option.some.inj left]
        exact ⟨last, rfl, active, toInt_secondsLeft active⟩
      · cases left

/-- After the wait that a cooldown names, and whatever is asked in between, the same check is
allowed if and only if that was the last second of the cooldown or the first check was whole seconds
after the last transaction. Otherwise it is refused for one second more, and one second more is
always enough. -/
theorem check_after_wait
    (refused : (tracker.check now native stablecoin profile).2 = .denied (.cooldown remaining)) :
    ∃ last, tracker.lastTx = some last ∧
      ∀ between, (∀ exchange ∈ between, exchange.record? = none) →
        let waited := respond.after (tracker.check now native stablecoin profile).1 between
        ∀ later : Instant,
          (later.since now = remaining.toInt * secondMillis →
            (waited.check later native stablecoin profile).2 =
              if millisLeft profile last now ≤ secondMillis ∨ secondMillis ∣ now.since last then
                .allowed
              else .denied (.cooldown 1)) ∧
          ((remaining.toInt + 1) * secondMillis ≤ later.since now →
            (waited.check later native stablecoin profile).2 = .allowed) := by
  obtain ⟨keeps, last, isLast, active, named⟩ := exists_of_check_eq_cooldown refused
  refine ⟨last, isLast, ?_⟩
  intro between unrecorded waited later
  have eases : (tracker.refresh now).EasesTo waited := easesTo_after unrecorded
  rw [check_of_eases keeps eases (easesTo_refresh.lastTx.trans isLast), named]
  constructor
  · intro waits
    obtain ⟨active_iff, short⟩ := millisLeft_after_wait active waits
    by_cases enough : millisLeft profile last now ≤ secondMillis ∨ secondMillis ∣ now.since last
    · rw [if_pos enough, if_neg (mt active_iff.1 (not_not_intro enough))]
    · have still := active_iff.2 enough
      have rest : Instant.wholeSeconds (millisLeft profile last later) = 0 :=
        Int.tdiv_eq_zero_of_lt (Int.le_of_lt still) short
      rw [if_neg enough, if_pos still, rest]
      rfl
  · intro waits
    have ended : ¬ 0 < millisLeft profile last later := by
      rw [millisLeft_later now]
      unfold secondMillis at waits
      omega
    exact if_neg ended

def afterPaid (millis : Fin 31000) : Instant :=
  ⟨millis, by unfold earliestMillis; omega, by unfold latestMillis; omega⟩

def paid : Tracker := (start .epoch).record .epoch 1 0

/-- Half a second after a transaction 29.5 seconds of a cooldown of 30 are left. The 29 that are
named are not enough. -/
theorem check_paid_tooSoon :
    let first := paid.check (afterPaid 500) 1 0 .balanced
    first.2 = .denied (.cooldown 29) ∧
      (afterPaid 29500).since (afterPaid 500) = 29 * secondMillis ∧
      (first.1.check (afterPaid 29500) 1 0 .balanced).2 = .denied (.cooldown 1) := by
  decide +kernel

theorem check_after_wait_paid :
    let first := paid.check (afterPaid 500) 1 0 .balanced
    let between := [⟨afterPaid 700, .budgets .balanced, .left ⟨249999999999999999, 500000000⟩⟩]
    let looked := respond.after first.1 between
    first.2 = .denied (.cooldown 29) ∧
      (looked.check (afterPaid 29500) 1 0 .balanced).2 = .denied (.cooldown 1) ∧
      (looked.check (afterPaid 30500) 1 0 .balanced).2 = .allowed := by
  intro first between looked
  have refused : first.2 = .denied (.cooldown 29) := by decide +kernel
  obtain ⟨last, isLast, waits⟩ := check_after_wait refused
  obtain rfl : Instant.epoch = last := Option.some.inj isLast
  have unrecorded : ∀ exchange ∈ between, exchange.record? = none := by
    intro exchange member
    rw [List.mem_singleton.1 member]
    rfl
  refine ⟨refused, ?tooSoon, (waits between unrecorded (afterPaid 30500)).2 (by decide)⟩
  case tooSoon =>
    exact ((waits between unrecorded (afterPaid 29500)).1 (by decide)).trans (if_neg (by decide))

end WalletPolicy.Tracker
