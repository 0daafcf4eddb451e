import Mathlib.Data.Rat.Floor
import TabularQuery.Proofs.HundredthText

/-! Rounding to hundredths a second time changes nothing. The number nearest to a count of hundredths is not that count
itself, yet the count nearest to it rounds back to it: below 2⁴⁶ the second count is the first one, and from there on a
hundredth is narrow beside the gap to the next number. -/

namespace TabularQuery.Binary64

theorem count_close {point : ℚ} {count : ℕ} (nonnegative : 0 ≤ point)
    (nearest : Nearest (fun n : ℕ => (n : ℚ)) Set.univ point count) : |(count : ℚ) - point| ≤ 1 / 2 := by
  have floor := Nat.floor_le nonnegative
  have ceiling := Nat.lt_floor_add_one point
  rcases le_total (point - ⌊point⌋₊) (1 / 2) with low | high
  · have closer := nearest.closest ⌊point⌋₊ trivial
    rw [abs_of_nonpos (sub_nonpos.mpr floor)] at closer
    linarith
  · have closer := nearest.closest (⌊point⌋₊ + 1) trivial
    push_cast at closer
    rw [abs_of_nonneg (by linarith : 0 ≤ (⌊point⌋₊ : ℚ) + 1 - point)] at closer
    linarith

theorem count_recovered {rank count again : ℕ} (below : magnitudeOfRank rank < 2 ^ 46) (rounded : RoundsTo (count / 100) rank)
    (nearest : Nearest (fun n : ℕ => (n : ℚ)) Set.univ (100 * magnitudeOfRank rank) again) : again = count := by
  have close := rounded.close (by positivity) below
  have apart : |(count : ℚ) - 100 * magnitudeOfRank rank| < 1 / 2 := by
    rw [abs_le] at close
    rw [abs_lt]
    constructor <;> linarith
  have closer := (nearest.closest count trivial).trans_lt apart
  rw [abs_lt] at apart closer
  have less : (again : ℚ) < count + 1 := by linarith
  have more : (count : ℚ) < again + 1 := by linarith
  norm_cast at less more
  omega

theorem roundsTo_count_exact {rank count whole : ℕ} (finite : rank < infinityRank)
    (same : 100 * magnitudeOfRank rank = whole) (nearest : Nearest (fun n : ℕ => (n : ℚ)) Set.univ (100 * magnitudeOfRank rank) count) :
    RoundsTo (count / 100) rank := by
  have closer := nearest.closest whole trivial
  rw [same, sub_self, abs_zero, abs_nonpos_iff, sub_eq_zero, ← same] at closer
  rw [closer, mul_div_cancel_left₀ _ (by norm_num)]
  exact roundsTo_exact finite.le

theorem shift_of_wide {shift significand : ℕ} (bounded : significand < 2 ^ 53)
    (wide : (2 : ℚ) ^ 46 ≤ significand * 2 ^ ((shift : ℤ) - 1074)) : 1068 ≤ shift := by
  by_contra! early
  have small : (significand : ℚ) < 2 ^ 53 := by exact_mod_cast bounded
  have narrow : (2 : ℚ) ^ ((shift : ℤ) - 1074) ≤ 2 ^ (-7 : ℤ) := zpow_le_zpow_right₀ (by norm_num) (by omega)
  have least : (2 : ℚ) ^ 46 = 2 ^ 53 * 2 ^ (-7 : ℤ) := by norm_num
  rw [least] at wide
  exact absurd (mul_lt_mul small narrow (by positivity) (by positivity)) wide.not_gt

/-- The first number of a binade from one on is a power of two, so it has a whole number of hundredths. -/
theorem hundredths_first {shift significand : ℕ} (late : 1022 ≤ shift) (first : 2 ^ 52 = significand) :
    ∃ whole : ℕ, 100 * magnitudeOfRank (shift * 2 ^ 52 + significand) = whole := by
  subst first
  obtain ⟨power, rfl⟩ := Nat.exists_eq_add_of_le late
  have exponent : ((1022 + power : ℕ) : ℤ) - 1074 = power - 52 := by push_cast; ring
  refine ⟨100 * 2 ^ power, ?_⟩
  rw [magnitudeOfRank_binade _ _ (Or.inr le_rfl) (by norm_num), exponent, zpow_sub₀ (by norm_num), zpow_natCast]
  push_cast
  ring

/-- From 2⁴⁶ on every number is nearest to the count of hundredths that is nearest to it. The first number of a binade has
a nearer neighbour below it, but is whole. -/
theorem roundsTo_count {rank count : ℕ} (finite : rank < infinityRank) (wide : 2 ^ 46 ≤ magnitudeOfRank rank)
    (nearest : Nearest (fun n : ℕ => (n : ℚ)) Set.univ (100 * magnitudeOfRank rank) count) : RoundsTo (count / 100) rank := by
  obtain ⟨beneath, above⟩ := abs_le.mp (count_close (mul_nonneg (by norm_num) (magnitudeOfRank_nonneg rank)) nearest)
  obtain ⟨shift, significand, rfl, normal, bounded⟩ := exists_binade rank
  have value := magnitudeOfRank_binade shift significand normal bounded.le
  have late : 1068 ≤ shift := shift_of_wide bounded (value ▸ wide)
  rcases (normal.resolve_left (by omega)).eq_or_lt with first | later
  · obtain ⟨whole, same⟩ := hundredths_first (by omega : 1022 ≤ shift) first
    exact roundsTo_count_exact finite same nearest
  · have least : (2 : ℚ) ^ (-6 : ℤ) = 1 / 2 ^ 6 := by norm_num
    have step : (2 : ℚ) ^ (-6 : ℤ) ≤ 2 ^ ((shift : ℤ) - 1074) := zpow_le_zpow_right₀ (by norm_num) (by omega)
    have next := magnitudeOfRank_binade shift (significand + 1) (by omega) (by omega)
    have last := magnitudeOfRank_binade shift (significand - 1) (by omega) (by omega)
    rw [Nat.cast_add_one] at next
    rw [Nat.cast_sub (by omega), Nat.cast_one] at last
    rw [least] at step
    generalize (2 : ℚ) ^ ((shift : ℤ) - 1074) = unit at value step next last
    obtain ⟨rank, rounded⟩ := exists_roundsTo (by positivity : (0 : ℚ) ≤ count / 100)
    rcases lt_trichotomy rank (shift * 2 ^ 52 + significand) with before | rfl | after
    · have following : shift * 2 ^ 52 + (significand - 1) + 1 = shift * 2 ^ 52 + significand := by omega
      have inside : shift * 2 ^ 52 + (significand - 1) + 1 ∈ Set.Iic infinityRank := Set.mem_Iic.mpr (by omega)
      have upper := rounded.below_ceiling magnitudeOfRank_strictMono inside (by omega)
      rw [following, value, last] at upper
      rw [value] at beneath
      linarith
    · exact rounded
    · have lower := rounded.above_floor magnitudeOfRank_strictMono (Set.mem_Iic.mpr finite.le) after
      rw [Nat.add_assoc, value, next] at lower
      rw [value] at above
      linarith

theorem roundHundredths_stable {x : Binary64} {count : ℕ} (rounded : RoundsTo (count / 100) x.rank) : x.roundHundredths = x := by
  by_cases finite : x.isFinite = true
  · obtain ⟨again, nearest, sign, result⟩ := x.roundHundredths_count finite
    apply ext_rank sign
    apply result.unique
    rcases lt_or_ge (magnitudeOfRank x.rank) (2 ^ 46) with below | wide
    · rwa [count_recovered below rounded nearest]
    · exact roundsTo_count (of_decide_eq_true finite) wide nearest
  · simp [roundHundredths, finite]

theorem roundHundredths_idem (x : Binary64) : x.roundHundredths.roundHundredths = x.roundHundredths := by
  by_cases finite : x.isFinite = true
  · obtain ⟨count, -, -, rounded⟩ := x.roundHundredths_count finite
    exact roundHundredths_stable rounded
  · simp [roundHundredths, finite]

end TabularQuery.Binary64
