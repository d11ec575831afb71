import Mathlib.Data.Rat.Cast.Order
import Mathlib.Tactic.Linarith
import Mathlib.Tactic.Positivity
import WalletPolicy.Quote

namespace WalletPolicy.Slippage

variable {quote better least more : UInt64} {limit : UInt32}

def shortfall (quote least : UInt64) : ℤ := max (quote.toNat - least.toNat) 0

theorem shortfall_eq : shortfall quote least = (quote.toNat - least.toNat : ℕ) := by
  unfold shortfall
  omega

/-! ## Points -/

theorem scaled_div_le (quote least : UInt64) :
    (quote.toNat - least.toNat) * 10000 / quote.toNat ≤ 10000 := by
  apply Nat.div_le_of_le_mul
  exact Nat.mul_le_mul_right 10000 (Nat.sub_le _ _)

theorem scaled_lt : (quote.toNat - least.toNat) * 10000 < 2 ^ 128 := by
  have bound := quote.toNat_lt
  omega

theorem toNat_points (quote least : UInt64) :
    (points quote least).toNat = (quote.toNat - least.toNat) * 10000 / quote.toNat := by
  unfold points
  split <;> rename_i none
  · have level : quote.toNat - least.toNat = 0 := by
      rw [← UInt64.toNat_inj, UInt64.toNat_zero, UInt64.le_iff_toNat_le] at none
      omega
    rw [level, Nat.zero_mul, Nat.zero_div]
    rfl
  · have small := scaled_div_le quote least
    have uncut : min ((quote.toNat - least.toNat) * 10000) (Nat.pow 2 128 - 1) =
        (quote.toNat - least.toNat) * 10000 := Nat.min_eq_left (Nat.le_pred_of_lt scaled_lt)
    dsimp only
    rw [Amount.toNat_sub, uncut, Nat.min_eq_left (Nat.le_trans small (by decide))]
    exact UInt32.toNat_ofNat_of_lt' (Nat.lt_of_le_of_lt small (by decide))

theorem points_le : points quote least ≤ 10000 := by
  rw [UInt32.le_iff_toNat_le, toNat_points]
  exact scaled_div_le quote least

theorem points_anti (order : least ≤ more) : points quote more ≤ points quote least := by
  rw [UInt64.le_iff_toNat_le] at order
  rw [UInt32.le_iff_toNat_le, toNat_points, toNat_points]
  apply Nat.div_le_div_right
  exact Nat.mul_le_mul_right 10000 (Nat.sub_le_sub_left order _)

/-- A better quote makes the slippage larger, although it is what slippage is measured by. -/
theorem points_mono (order : quote ≤ better) : points quote least ≤ points better least := by
  rw [UInt32.le_iff_toNat_le]
  rcases UInt64.le_total quote least with covered | short
  · rw [toNat_points, Nat.sub_eq_zero_of_le (UInt64.le_iff_toNat_le.1 covered), Nat.zero_mul,
      Nat.zero_div]
    exact Nat.zero_le _
  rw [UInt64.le_iff_toNat_le] at order short
  rcases Nat.eq_zero_or_pos better.toNat with zero | positive
  · have same : quote.toNat = better.toNat := by omega
    rw [UInt64.toNat_inj.1 same]
  have floored :
      (points quote least).toNat * quote.toNat ≤ (quote.toNat - least.toNat) * 10000 := by
    rw [toNat_points]
    exact Nat.div_mul_le_self _ _
  have small : (points quote least).toNat ≤ 10000 := UInt32.le_iff_toNat_le.1 points_le
  rw [toNat_points better, Nat.le_div_iff_mul_le positive]
  -- What the quote gains the shortfall gains too, and there it counts at 10000 points.
  calc (points quote least).toNat * better.toNat
      = (points quote least).toNat * quote.toNat
          + (points quote least).toNat * (better.toNat - quote.toNat) := by
        rw [← Nat.mul_add, Nat.add_sub_cancel' order]
    _ ≤ (quote.toNat - least.toNat) * 10000 + 10000 * (better.toNat - quote.toNat) :=
        Nat.add_le_add floored (Nat.mul_le_mul_right _ small)
    _ = (better.toNat - least.toNat) * 10000 := by omega

/-! ## Checks -/

theorem isWithin_check_iff :
    (check quote least limit).isWithin = true ↔ points quote least ≤ limit := by
  unfold check
  dsimp only
  split <;> rename_i order <;> simpa [Check.isWithin] using order

theorem isWithin_check_iff_shortfall_lt (positive : 0 < quote) :
    (check quote least limit).isWithin = true ↔
      (quote.toNat - least.toNat) * 10000 < (limit.toNat + 1) * quote.toNat := by
  rw [isWithin_check_iff, UInt32.le_iff_toNat_le, toNat_points, ← Nat.lt_succ_iff,
    Nat.div_lt_iff_lt_mul (UInt64.lt_iff_toNat_lt.1 positive)]

/-- Slippage in basis points is the exact figure rounded down. It is at most 10000, so that no bound
of the arithmetic is ever met, falls with the least output and rises with the quote. A swap is
within a limit exactly while its shortfall is below the next basis point, and so is short of the
limit by less than one basis point of the quote. -/
theorem points_exact (quote least : UInt64) (limit : UInt32) (positive : 0 < quote) :
    ((points quote least).toNat = 10000 * shortfall quote least / quote.toNat ∧
      points quote least ≤ 10000 ∧ 10000 * shortfall quote least < 2 ^ 128) ∧
    (∀ more, least ≤ more → points quote more ≤ points quote least) ∧
    (∀ better, quote ≤ better → points quote least ≤ points better least) ∧
    ((check quote least limit).isWithin = true ↔
      10000 * shortfall quote least < (limit.toNat + 1) * quote.toNat) ∧
    ((check quote least limit).isWithin = true →
      (shortfall quote least : ℚ) - quote.toNat * limit.toNat / 10000 < quote.toNat / 10000) := by
  have scaled : 10000 * shortfall quote least = ((quote.toNat - least.toNat) * 10000 : ℕ) := by
    rw [shortfall_eq, Nat.cast_mul, mul_comm]
    rfl
  have exactLimit : (check quote least limit).isWithin = true ↔
      10000 * shortfall quote least < (limit.toNat + 1) * quote.toNat := by
    rw [isWithin_check_iff_shortfall_lt positive, scaled]
    norm_cast
  refine ⟨⟨?floor, points_le, ?uncut⟩, fun _ => points_anti, fun _ => points_mono, exactLimit, ?_⟩
  case floor =>
    rw [scaled, toNat_points]
    norm_cast
  case uncut =>
    rw [scaled]
    exact_mod_cast scaled_lt
  intro within
  have below : (10000 * shortfall quote least : ℚ) < (limit.toNat + 1) * quote.toNat := by
    exact_mod_cast exactLimit.1 within
  linarith

theorem points_exact_greatest :
    let greatest : UInt64 := 18446744073709551615
    (0 < greatest ∧ (points greatest 9223372036854775807).toNat = 5000 ∧
      (check greatest 9223372036854775807 5000).isWithin = true ∧
      (check greatest 9223372036854775807 4999).isWithin = false) := by
  intro greatest
  have exact := points_exact greatest 9223372036854775807 5000 (by decide)
  have narrow := points_exact greatest 9223372036854775807 4999 (by decide)
  refine ⟨by decide, ?_, exact.2.2.2.1.2 (by decide), ?_⟩
  · exact Int.ofNat_inj.1 (exact.1.1.trans (by decide))
  · exact Bool.eq_false_iff.2 fun within => absurd (narrow.2.2.2.1.1 within) (by decide)

end WalletPolicy.Slippage
