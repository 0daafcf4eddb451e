import Mathlib.Algebra.Order.Field.Power
import Mathlib.Data.Rat.Lemmas
import TabularQuery.Number.Decimal
import TabularQuery.Proofs.BinaryRounding

/-! A decimal converts to the binary number nearest to its exact value. The shortcuts for
very large and very small exponents give the rank that the division would have given. -/

namespace TabularQuery

namespace Binary64

theorem exists_roundsTo {magnitude : ℚ} (nonnegative : 0 ≤ magnitude) : ∃ rank, RoundsTo magnitude rank := by
  have rounded := nearestRank_unitsInOne magnitude.num.toNat magnitude.pos
  have numerator : ((magnitude.num.toNat : ℕ) : ℚ) = magnitude.num := by
    exact_mod_cast Int.toNat_of_nonneg (Rat.num_nonneg.mpr nonnegative)
  rw [numerator, Rat.num_div_den] at rounded
  exact ⟨_, rounded⟩

theorem RoundsTo.between {low point high : ℚ} {rank : ℕ} (nonnegative : 0 ≤ point) (above : low ≤ point) (below : point ≤ high)
    (first : RoundsTo low rank) (last : RoundsTo high rank) : RoundsTo point rank := by
  obtain ⟨other, rounded⟩ := exists_roundsTo nonnegative
  obtain rfl := Nat.le_antisymm (first.mono above rounded) (rounded.mono below last)
  exact rounded

theorem magnitudeOfRank_binade (shift significand : ℕ) (normal : shift = 0 ∨ 2 ^ 52 ≤ significand)
    (bounded : significand ≤ 2 ^ 53) :
    magnitudeOfRank (shift * 2 ^ 52 + significand) = significand * 2 ^ ((shift : ℤ) - 1074) := by
  have units : ((1074 : ℕ) : ℤ) = 1074 := rfl
  rw [magnitudeOfRank, unitsOfRank_binade shift significand normal bounded, zpow_sub₀ two_ne_zero, zpow_natCast,
    ← units, zpow_natCast, ← mul_div_assoc]
  push_cast
  rfl

private theorem last_step : ((2045 : ℕ) : ℤ) - 1074 = (971 : ℕ) := rfl

theorem magnitudeOfRank_infinity : magnitudeOfRank infinityRank = 2 ^ 1024 := by
  have rank : 2045 * 2 ^ 52 + 2 ^ 53 = infinityRank := by decide
  rw [← rank, magnitudeOfRank_binade 2045 (2 ^ 53) (by omega) le_rfl, last_step, zpow_natCast, Nat.cast_pow,
    Nat.cast_ofNat, ← pow_add]

theorem roundsTo_infinity {magnitude : ℚ} (large : 2 ^ 1024 ≤ magnitude) : RoundsTo magnitude infinityRank := by
  obtain ⟨rank, rounded⟩ := exists_roundsTo (le_trans (by positivity) large)
  rw [← magnitudeOfRank_infinity] at large
  have reached := (roundsTo_exact le_rfl).mono large rounded
  obtain rfl : rank = infinityRank := Nat.le_antisymm rounded.member reached
  exact rounded

theorem roundsTo_zero {magnitude : ℚ} (nonnegative : 0 ≤ magnitude) (small : magnitude ≤ 1 / 2 ^ 1075) :
    RoundsTo magnitude 0 := by
  obtain ⟨rank, rounded⟩ := exists_roundsTo nonnegative
  have tie : RoundsTo (1 / 2 ^ 1075) 0 := by
    have halfway := nearestRank_roundsTo 1 Nat.two_pos
    have rank : nearestRank 1 2 = 0 := by decide
    have point : ((1 : ℕ) : ℚ) / (2 : ℕ) / 2 ^ 1074 = 1 / 2 ^ 1075 := by
      rw [Nat.cast_one, Nat.cast_ofNat, div_div, ← pow_succ']
    rwa [rank, point] at halfway
  obtain rfl : rank = 0 := Nat.le_zero.mp (rounded.mono small tie)
  exact rounded

theorem RoundsTo.eq_zero_iff {magnitude : ℚ} {rank : ℕ} (rounded : RoundsTo magnitude rank) :
    rank = 0 ↔ magnitude ≤ 1 / 2 ^ 1075 := by
  have least : magnitudeOfRank 0 = 0 ∧ magnitudeOfRank (0 + 1) = 2 * (1 / 2 ^ 1075) := by
    rw [pow_succ' (2 : ℚ) 1074]
    constructor
    · simp [magnitudeOfRank, unitsOfRank_eq]
    · rw [magnitudeOfRank]
      simp only [unitsOfRank_eq, Nat.zero_add, Nat.one_lt_two_pow_iff]
      generalize (2 : ℚ) ^ 1074 = units
      simp
      ring
  rw [← Nat.le_zero, Nearest.le_even_iff magnitudeOfRank_strictMono rounded (Nat.zero_le _) (by decide) Even.zero,
    least.1, least.2, zero_add]
  exact mul_le_mul_iff_right₀ two_pos

private theorem magnitudeOfRank_greatest : magnitudeOfRank (infinityRank - 1) = 2 ^ 1024 - 2 ^ 971 := by
  have rank : 2045 * 2 ^ 52 + (2 ^ 53 - 1) = infinityRank - 1 := by decide
  have binade : (2 : ℚ) ^ 1024 = 2 ^ 53 * 2 ^ 971 := by rw [← pow_add]
  rw [← rank, magnitudeOfRank_binade 2045 (2 ^ 53 - 1) (by omega) (by omega), last_step, zpow_natCast, binade]
  generalize (2 : ℚ) ^ 971 = step
  push_cast
  ring

theorem RoundsTo.eq_infinity_iff {magnitude : ℚ} {rank : ℕ} (rounded : RoundsTo magnitude rank) :
    rank = infinityRank ↔ 2 ^ 1024 - 2 ^ 970 ≤ magnitude := by
  have next : infinityRank - 1 + 1 = infinityRank := by decide
  have half : (2 : ℚ) ^ 971 = 2 * 2 ^ 970 := pow_succ' 2 970
  have below : rank ≤ infinityRank - 1 ↔ magnitude < 2 ^ 1024 - 2 ^ 970 := by
    rw [Nearest.le_odd_iff magnitudeOfRank_strictMono rounded (by decide) next.le (by decide), next,
      magnitudeOfRank_greatest, magnitudeOfRank_infinity, half]
    generalize (2 : ℚ) ^ 1024 = overflow
    generalize (2 : ℚ) ^ 970 = step
    constructor <;> intro bound <;> linarith
  have bound : rank ≤ infinityRank := rounded.member
  rw [← not_lt, ← below]
  omega

end Binary64

namespace Decimal
open Binary64

def value (d : Decimal) : ℚ := d.coefficient * 10 ^ d.exponent

theorem value_nonneg (d : Decimal) : 0 ≤ d.value := by
  unfold value
  positivity

theorem fraction_pos (d : Decimal) : 0 < d.fraction.2 := by
  unfold fraction
  split
  · exact Nat.one_pos
  · exact Nat.pow_pos (by decide)

theorem fraction_value (d : Decimal) : (d.fraction.1 : ℚ) / d.fraction.2 = d.value := by
  unfold fraction value
  split
  next power same => simp [same, Nat.pow_eq]
  next power same => simp [same, Nat.pow_eq, zpow_negSucc, div_eq_mul_inv]

theorem coefficient_pos {d : Decimal} {rank : ℕ} (positive : 0 < rank) (rounded : RoundsTo d.value rank) :
    0 < d.coefficient := by
  rw [Nat.pos_iff_ne_zero]
  intro zero
  have origin : RoundsTo d.value 0 := by
    apply roundsTo_zero d.value_nonneg
    rw [value, zero, Nat.cast_zero, zero_mul]
    positivity
  exact absurd (rounded.unique origin) positive.ne'

private theorem eight_pow_le (power : ℕ) : (2 : ℚ) ^ (3 * power) ≤ 10 ^ power := by
  rw [pow_mul]
  exact pow_le_pow_left₀ (by norm_num) (by norm_num) power

private theorem roundsTo_huge (d : Decimal) (nonzero : d.coefficient ≠ 0) (large : 400 < d.exponent) :
    RoundsTo d.value infinityRank := by
  apply roundsTo_infinity
  have coefficient : (1 : ℚ) ≤ d.coefficient := by exact_mod_cast Nat.one_le_iff_ne_zero.mpr nonzero
  calc (2 : ℚ) ^ 1024 ≤ 2 ^ (3 * 400) := pow_le_pow_right₀ (by norm_num) (by norm_num)
    _ ≤ 10 ^ 400 := eight_pow_le 400
    _ = 10 ^ (400 : ℤ) := (zpow_natCast 10 400).symm
    _ ≤ 10 ^ d.exponent := zpow_le_zpow_right₀ (by norm_num) large.le
    _ ≤ d.coefficient * 10 ^ d.exponent := le_mul_of_one_le_left (by positivity) coefficient

private theorem roundsTo_tiny (d : Decimal) (small : d.exponent + (Nat.log2 d.coefficient + 1) < -400) :
    RoundsTo d.value 0 := by
  apply roundsTo_zero d.value_nonneg
  have binary : (d.coefficient : ℚ) ≤ 2 ^ (Nat.log2 d.coefficient + 1) := by exact_mod_cast Nat.lt_log2_self.le
  have digits : (d.coefficient : ℚ) ≤ 10 ^ ((Nat.log2 d.coefficient + 1 : ℕ) : ℤ) := by
    rw [zpow_natCast]
    exact binary.trans (pow_le_pow_left₀ (by norm_num) (by norm_num) _)
  calc d.coefficient * (10 : ℚ) ^ d.exponent
      ≤ 10 ^ ((Nat.log2 d.coefficient + 1 : ℕ) : ℤ) * 10 ^ d.exponent := by gcongr
    _ = 10 ^ (((Nat.log2 d.coefficient + 1 : ℕ) : ℤ) + d.exponent) := (zpow_add₀ (by norm_num) _ _).symm
    _ ≤ 10 ^ (-400 : ℤ) := zpow_le_zpow_right₀ (by norm_num) (by push_cast; omega)
    _ = 1 / 10 ^ 400 := by rw [zpow_neg, one_div]; norm_cast
    _ ≤ 1 / 2 ^ (3 * 400) := one_div_le_one_div_of_le (by positivity) (eight_pow_le 400)
    _ ≤ 1 / 2 ^ 1075 := one_div_le_one_div_of_le (by positivity) (pow_le_pow_right₀ (by norm_num) (by norm_num))

theorem nearestRank_roundsTo (d : Decimal) : RoundsTo d.value d.nearestRank := by
  unfold nearestRank
  split
  next zero => exact roundsTo_zero d.value_nonneg (by simp [value, zero])
  next nonzero =>
    split
    next large => exact roundsTo_huge d nonzero large
    next =>
      split
      next small => exact roundsTo_tiny d small
      next =>
        rw [← fraction_value]
        exact nearestRank_unitsInOne d.fraction.1 d.fraction_pos

end Decimal
end TabularQuery
