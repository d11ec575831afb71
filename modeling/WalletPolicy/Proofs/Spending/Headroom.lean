import WalletPolicy.Proofs.Spending.Answers
import WalletPolicy.Proofs.Spending.Days

/-!
# Budgets and daily caps

What a tracker reports as left of a day is what its checks go by.
-/

namespace WalletPolicy

def SpendCheck.overdrawn? : SpendCheck → Option Asset
  | .denied (.dailyNative ..) => some .native
  | .denied (.dailyStablecoin ..) => some .stablecoin
  | _ => none

namespace Amount

variable {amount cap spent : UInt64}

theorem add_zero : add spent 0 = spent := by
  rw [← UInt64.toNat_inj, toNat_add, UInt64.toNat_zero, Nat.add_zero, min_toNat]

theorem le_sub_iff (positive : 0 < amount) (small : cap.toNat < greatest) :
    amount ≤ sub cap spent ↔ ¬ cap < add spent amount := by
  rw [UInt64.lt_iff_toNat_lt, UInt64.toNat_zero] at positive
  rw [UInt64.le_iff_toNat_le, UInt64.lt_iff_toNat_lt, toNat_sub, toNat_add]
  omega

end Amount

namespace Tracker

variable {tracker : Tracker} {opened now : Instant} {profile : Profile}
  {native stablecoin : UInt64} {asset : Asset} {log : List SpendingExchange}

/-! ## Daily caps of a check -/

theorem overdrawn?_judge (tracker : Tracker) (now : Instant) (native stablecoin : UInt64)
    (profile : Profile) :
    (tracker.judge now native stablecoin profile).overdrawn? =
      if profile.perTxNativeCap < native ∨ profile.perTxStablecoinCap < stablecoin then none
      else if profile.dailyNativeCap < Amount.add tracker.nativeSpent native then some .native
      else if profile.dailyStablecoinCap < Amount.add tracker.stablecoinSpent stablecoin then
        some .stablecoin
      else none := by
  unfold judge
  split <;> rename_i perTxNative
  · simp [SpendCheck.overdrawn?, perTxNative]
  · split <;> rename_i perTxStablecoin
    · simp [SpendCheck.overdrawn?, perTxStablecoin]
    · rw [if_neg (not_or.2 ⟨perTxNative, perTxStablecoin⟩)]
      split
      · rfl
      · split
        · rfl
        · split
          · rfl
          · split <;> rfl

theorem spent_refresh :
    (asset.spent (tracker.refresh now)).toNat =
      if tracker.day < now.day then 0 else (asset.spent tracker).toNat := by
  rw [refresh, spent_prune, spent_rollOver]

theorem overdrawn?_check_eq_none_iff (smallNative : profile.dailyNativeCap.toNat < Amount.greatest)
    (smallStablecoin : profile.dailyStablecoinCap.toNat < Amount.greatest)
    (positiveNative : 0 < native) (positiveStablecoin : 0 < stablecoin)
    (perTxNative : native ≤ profile.perTxNativeCap)
    (perTxStablecoin : stablecoin ≤ profile.perTxStablecoinCap) :
    (tracker.check now native stablecoin profile).2.overdrawn? = none ↔
      native ≤ (tracker.budgets now profile).native ∧
        stablecoin ≤ (tracker.budgets now profile).stablecoin := by
  have within : ¬ (profile.perTxNativeCap < native ∨ profile.perTxStablecoinCap < stablecoin) :=
    not_or.2 ⟨UInt64.not_lt.2 perTxNative, UInt64.not_lt.2 perTxStablecoin⟩
  -- Pruning leaves the totals alone, so the budgets are those of the tracker that is judged.
  have left : tracker.budgets now profile =
      ⟨Amount.sub profile.dailyNativeCap (tracker.refresh now).nativeSpent,
        Amount.sub profile.dailyStablecoinCap (tracker.refresh now).stablecoinSpent⟩ :=
    budgets_eq_rollOver
  rw [check, overdrawn?_judge, if_neg within, left,
    Amount.le_sub_iff positiveNative smallNative,
    Amount.le_sub_iff positiveStablecoin smallStablecoin]
  split <;> rename_i overNative
  · simp [overNative]
  · split <;> rename_i overStablecoin <;> simp [overNative, overStablecoin]

theorem lt_add_of_overdrawn?
    (overdrawn : (tracker.check now native stablecoin profile).2.overdrawn? = some asset) :
    asset.dailyCap profile <
      Amount.add (asset.spent (tracker.refresh now)) (asset.amount ⟨now, native, stablecoin⟩) := by
  rw [check, overdrawn?_judge] at overdrawn
  split at overdrawn
  · cases overdrawn
  · split at overdrawn
    · rename_i overNative
      cases overdrawn
      exact overNative
    · split at overdrawn
      · rename_i overStablecoin
        cases overdrawn
        exact overStablecoin
      · cases overdrawn

/-! ## Reachable trackers -/

/-- What was recorded on the day of an instant, as a tracker counts it: since its day was reached, and
nothing if the instant is of a later day. -/
def recordedToday (opened : Instant) (log : List SpendingExchange) (now : Instant) (asset : Asset) :
    Nat :=
  let day := (respond.after (start opened) log).day
  if day < now.day then 0 else (ledger (sinceReached opened log day)).total asset

theorem spent_refresh_le :
    (asset.spent ((respond.after (start opened) log).refresh now)).toNat ≤
      recordedToday opened log now asset := by
  rw [spent_refresh, recordedToday, accounts_after.spent]
  split
  · exact Nat.le_refl 0
  · exact Nat.min_le_left _ _

/-- On any clock a spend of both assets that keeps to the caps of a single transaction keeps to both
daily caps if and only if it is within the budgets of that instant. Nothing of an asset is refused for
its daily cap only when more than the cap has been recorded already. -/
theorem check_fits_iff_le_budgets (opened : Instant) (log : List SpendingExchange) (now : Instant)
    (profile : Profile) (smallNative : profile.dailyNativeCap.toNat < Amount.greatest)
    (smallStablecoin : profile.dailyStablecoinCap.toNat < Amount.greatest) :
    let tracker := respond.after (start opened) log
    let left := tracker.budgets now profile
    (∀ native stablecoin, 0 < native → native ≤ profile.perTxNativeCap →
      0 < stablecoin → stablecoin ≤ profile.perTxStablecoinCap →
        ((tracker.check now native stablecoin profile).2.overdrawn? = none ↔
          native ≤ left.native ∧ stablecoin ≤ left.stablecoin)) ∧
    ∀ native stablecoin asset, Asset.amount asset ⟨now, native, stablecoin⟩ = 0 →
      (tracker.check now native stablecoin profile).2.overdrawn? = some asset →
        (asset.dailyCap profile).toNat < recordedToday opened log now asset := by
  intro tracker left
  refine ⟨fun native stablecoin positiveNative perTxNative positiveStablecoin perTxStablecoin => ?_,
    fun native stablecoin asset nothing overdrawn => ?_⟩
  · exact overdrawn?_check_eq_none_iff smallNative smallStablecoin positiveNative positiveStablecoin
      perTxNative perTxStablecoin
  · have exceeded := lt_add_of_overdrawn? overdrawn
    rw [nothing, Amount.add_zero, UInt64.lt_iff_toNat_lt] at exceeded
    exact Nat.lt_of_lt_of_le exceeded spent_refresh_le

def generousDay : List SpendingExchange :=
  [⟨.epoch, .record 60 5, .recorded⟩, ⟨.epoch, .record 50 2, .recorded⟩]

theorem check_fits_generousDay :
    let profile : Profile := ⟨"narrow", 60, 100, 7, 9, 2, 3600, 50⟩
    let nextDay : Instant := ⟨dayMillis, by decide, by decide⟩
    let tracker := respond.after (start .epoch) generousDay
    tracker.budgets .epoch profile = ⟨0, 2⟩ ∧
      (tracker.check .epoch 1 2 profile).2.overdrawn? ≠ none ∧
      (tracker.check .epoch 0 2 profile).2.overdrawn? = some .native ∧
      100 < recordedToday .epoch generousDay .epoch .native ∧
      (tracker.check nextDay 60 7 profile).2.overdrawn? = none := by
  intro profile nextDay tracker
  have today := check_fits_iff_le_budgets .epoch generousDay .epoch profile (by decide) (by decide)
  have tomorrow := check_fits_iff_le_budgets .epoch generousDay nextDay profile (by decide) (by decide)
  have refused : (tracker.check .epoch 0 2 profile).2.overdrawn? = some .native := rfl
  refine ⟨by decide +kernel, ?_, refused, today.2 0 2 .native rfl refused, ?_⟩
  · exact fun fits => absurd ((today.1 1 2 (by decide) (by decide) (by decide) (by decide)).1 fits)
      (by decide +kernel)
  · exact (tomorrow.1 60 7 (by decide) (by decide) (by decide) (by decide)).2 (by decide +kernel)

end Tracker

end WalletPolicy
