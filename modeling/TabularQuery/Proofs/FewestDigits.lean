import Mathlib.Order.Bounds.Basic
import TabularQuery.Number.Notation
import TabularQuery.Proofs.ShortestGrid

/-! The shortest decimal of a number has as few digits as any decimal that rounds to the number, and of these it is the
nearest. It stands on the coarsest grid, so a decimal with no more digits stands on the same grid or below a power of ten
that is its neighbour there. -/

namespace TabularQuery

namespace Decimal
open Binary64

theorem value_one (exponent : ℤ) : (Decimal.mk 1 exponent).value = 10 ^ exponent := by
  rw [value, Nat.cast_one, one_mul]

theorem lt_ten_pow_iff {n count : ℕ} (positive : 0 < n) : n < 10 ^ count ↔ (Nat.toDigits 10 n).length ≤ count := by
  rcases Nat.eq_zero_or_pos count with rfl | several
  · have some := List.length_pos_of_ne_nil (Nat.toDigits_ne_nil (n := n) (b := 10))
    omega
  · exact (Nat.length_toDigits_le_iff (by decide) several).symm

theorem value_lt {d : Decimal} {count : ℕ} (short : d.coefficient < 10 ^ count) : d.value < 10 ^ (d.exponent + count) := by
  rw [value, zpow_add₀ (by norm_num), mul_comm, zpow_natCast]
  exact mul_lt_mul_of_pos_left (by exact_mod_cast short) (by positivity)

theorem le_value {d : Decimal} {count : ℕ} (long : 10 ^ count ≤ d.coefficient) : 10 ^ (d.exponent + count) ≤ d.value := by
  rw [value, zpow_add₀ (by norm_num), mul_comm, zpow_natCast]
  exact mul_le_mul_of_nonneg_right (by exact_mod_cast long) (by positivity)

theorem leadingExponent_lt_iff {d : Decimal} {bound : ℤ} (positive : 0 < d.coefficient) :
    d.leadingExponent < bound ↔ d.value < 10 ^ bound := by
  obtain ⟨after, length⟩ : ∃ after, (Nat.toDigits 10 d.coefficient).length = after + 1 :=
    Nat.exists_eq_succ_of_ne_zero (List.length_pos_of_ne_nil Nat.toDigits_ne_nil).ne'
  have upper : d.value < 10 ^ (d.exponent + (after + 1 : ℕ)) := value_lt ((lt_ten_pow_iff positive).mpr length.le)
  have lower : 10 ^ (d.exponent + after) ≤ d.value := by
    apply le_value
    by_contra! short
    have fewer := (lt_ten_pow_iff positive).mp short
    omega
  have leading : d.leadingExponent = d.exponent + after := by
    rw [leadingExponent, length]
    push_cast
    ring
  rw [leading]
  constructor
  · intro less
    exact upper.trans_le (zpow_le_zpow_right₀ (by norm_num) (by push_cast; omega))
  · intro below
    exact (zpow_lt_zpow_iff_right₀ (by norm_num)).mp (lower.trans_lt below)

end Decimal

namespace Basin
open Binary64

private theorem multiple_nearest {point width floor chosen count : ℕ} (low : floor * width ≤ point)
    (high : point < (floor + 1) * width)
    (choice : chosen = floor ∧ (2 * point ≤ (floor + (floor + 1)) * width ∨ count ≤ floor) ∨
      chosen = floor + 1 ∧ ((floor + (floor + 1)) * width ≤ 2 * point ∨ floor < count)) :
    |((chosen * width : ℕ) : ℤ) - point| ≤ |((count * width : ℕ) : ℤ) - point| := by
  have split : (floor + (floor + 1)) * width = floor * width + (floor + 1) * width := Nat.add_mul _ _ _
  have side : count ≤ floor ∧ count * width ≤ floor * width ∨ floor < count ∧ (floor + 1) * width ≤ count * width := by
    rcases Nat.lt_or_ge floor count with later | earlier
    · exact Or.inr ⟨later, Nat.mul_le_mul_right width later⟩
    · exact Or.inl ⟨earlier, Nat.mul_le_mul_right width earlier⟩
  have same : chosen * width = floor * width ∧ chosen = floor ∨ chosen * width = (floor + 1) * width ∧ chosen = floor + 1 := by
    rcases choice with ⟨rfl, -⟩ | ⟨rfl, -⟩
    · exact Or.inl ⟨rfl, rfl⟩
    · exact Or.inr ⟨rfl, rfl⟩
  rw [split] at choice
  generalize floor * width = below at *
  generalize (floor + 1) * width = above at *
  generalize chosen * width = reached at *
  generalize count * width = other at *
  rw [Int.abs_eq_natAbs, Int.abs_eq_natAbs]
  omega

private theorem distance_eq (rank : ℕ) (d : Decimal) : |d.value - magnitudeOfRank rank| =
    (|((d.coefficient * ((Decimal.mk 1 d.exponent).fraction.1 * (2 * unitsInOne)) : ℕ) : ℤ) -
      ((ofRank rank).value * (Decimal.mk 1 d.exponent).fraction.2 : ℕ)| : ℤ) /
        ((Decimal.mk 1 d.exponent).fraction.2 * (2 * unitsInOne) : ℚ) := by
  have divisor : (0 : ℚ) < (Decimal.mk 1 d.exponent).fraction.2 := by exact_mod_cast (Decimal.mk 1 d.exponent).fraction_pos
  have unit := unitsInOne_pos
  rw [← gridPoint_value, magnitudeOfRank_def, Int.cast_abs, ← abs_of_pos (mul_pos divisor (mul_pos two_pos unit)), ← abs_div]
  congr 1
  simp only [ofRank]
  push_cast
  field_simp

theorem gridPoint?_nearest {rank : ℕ} {d other : Decimal} (positive : 0 < rank) (finite : rank < infinityRank)
    (found : (ofRank rank).gridPoint? d.exponent = some d) (same : other.exponent = d.exponent)
    (rounded : RoundsTo other.value rank) : |d.value - magnitudeOfRank rank| ≤ |other.value - magnitudeOfRank rank| := by
  have divisor := (Decimal.mk 1 d.exponent).fraction_pos
  have inside : (ofRank rank).contains (other.coefficient * ((Decimal.mk 1 d.exponent).fraction.1 * (2 * unitsInOne)))
      (Decimal.mk 1 d.exponent).fraction.2 = true := by
    apply contains_of_roundsTo positive finite divisor
    rwa [← same, gridPoint_value]
  have scale : (0 : ℚ) ≤ (Decimal.mk 1 d.exponent).fraction.2 * (2 * unitsInOne) :=
    mul_nonneg (Nat.cast_nonneg _) (mul_nonneg two_pos.le unitsInOne_pos.le)
  rw [distance_eq, distance_eq, same]
  apply div_le_div_of_nonneg_right _ scale
  apply Int.cast_le.mpr
  obtain ⟨low, high⟩ := value_inside positive
  have step := step_pos d.exponent
  simp only [gridPoint?] at found
  generalize (Decimal.mk 1 d.exponent).fraction.1 * (2 * unitsInOne) = width at *
  generalize (Decimal.mk 1 d.exponent).fraction.2 = units at *
  have below : (ofRank rank).value * units / width * width ≤ (ofRank rank).value * units := Nat.div_mul_le_self _ _
  have above : (ofRank rank).value * units < ((ofRank rank).value * units / width + 1) * width :=
    Nat.lt_mul_of_div_lt (Nat.lt_succ_self _) step
  generalize (ofRank rank).value * units / width = floor at *
  apply multiple_nearest below above
  split at found
  next =>
    have chosen := congrArg Decimal.coefficient (Option.some.inj found)
    rw [← chosen]
    dsimp only
    split
    next near => exact Or.inl ⟨rfl, Or.inl near.le⟩
    next far => exact Or.inr ⟨rfl, Or.inl (Nat.le_of_not_lt far)⟩
  next outside =>
    refine Or.inl ⟨(congrArg Decimal.coefficient (Option.some.inj found)).symm, Or.inr ?_⟩
    by_contra! beyond
    have met := contains_between divisor low high inside (Or.inr ⟨above.le, Nat.mul_le_mul_right width beyond⟩)
    rw [met] at outside
    cases outside
  next outside _ =>
    refine Or.inr ⟨(congrArg Decimal.coefficient (Option.some.inj found)).symm, Or.inr ?_⟩
    by_contra! within
    have met := contains_between divisor low high inside (Or.inl ⟨Nat.mul_le_mul_right width within, below⟩)
    rw [met] at outside
    cases outside
  next => cases found

end Basin

namespace Binary64

/-! A basin that reaches from nine tenths of a power of ten to the power itself. -/

private theorem unitsOfRank_two_steps {shift significand : ℕ} (normal : shift = 0 ∨ 2 ^ 52 ≤ significand)
    (bounded : significand < 2 ^ 53) : unitsOfRank (shift * 2 ^ 52 + significand + 2) ≤ (significand + 3) * 2 ^ shift := by
  rcases Nat.lt_or_ge (significand + 1) (2 ^ 53) with inside | last
  · rw [Nat.add_assoc, unitsOfRank_binade shift (significand + 2) (by omega) (by omega)]
    exact Nat.mul_le_mul_right _ (by omega)
  · have next : shift * 2 ^ 52 + significand + 2 = (shift + 1) * 2 ^ 52 + (2 ^ 52 + 1) := by omega
    have double : 2 ^ (shift + 1) = 2 * 2 ^ shift := Nat.pow_succ'
    rw [next, unitsOfRank_binade (shift + 1) (2 ^ 52 + 1) (by omega) (by omega), double, ← Nat.mul_assoc]
    exact Nat.mul_le_mul_right _ (by omega)

private theorem midpoints {previous : ℕ} {point : ℚ} (finite : previous + 1 < infinityRank)
    (rounded : RoundsTo point (previous + 1)) :
    magnitudeOfRank previous + magnitudeOfRank (previous + 1) ≤ 2 * point ∧
      2 * point ≤ magnitudeOfRank (previous + 1) + magnitudeOfRank (previous + 2) := by
  constructor
  · exact rounded.above_floor magnitudeOfRank_strictMono (Set.mem_Iic.mpr (by omega)) (Nat.lt_succ_self previous)
  · exact rounded.below_ceiling magnitudeOfRank_strictMono (Set.mem_Iic.mpr finite) le_rfl

private theorem units_of_wide {previous : ℕ} {near far : ℚ} (finite : previous + 1 < infinityRank)
    (wide : 10 * near ≤ 9 * far) (first : RoundsTo near (previous + 1)) (second : RoundsTo far (previous + 1)) :
    10 * (unitsOfRank previous + unitsOfRank (previous + 1)) ≤
      9 * (unitsOfRank (previous + 1) + unitsOfRank (previous + 2)) := by
  obtain ⟨low, -⟩ := midpoints finite first
  obtain ⟨-, high⟩ := midpoints finite second
  have ordered : 10 * (magnitudeOfRank previous + magnitudeOfRank (previous + 1)) ≤
      9 * (magnitudeOfRank (previous + 1) + magnitudeOfRank (previous + 2)) := by linarith
  have unit := unitsInOne_pos
  simp only [magnitudeOfRank_def, ← add_div, ← mul_div_assoc] at ordered
  exact_mod_cast (div_le_div_iff_of_pos_right unit).mp ordered

/-- Only the least numbers have a basin as wide as a tenth of its upper end. -/
private theorem rank_of_wide {rank : ℕ} {near far : ℚ} (positive : 0 < rank) (finite : rank < infinityRank)
    (wide : 10 * near ≤ 9 * far) (first : RoundsTo near rank) (second : RoundsTo far rank) : rank ≤ 9 := by
  obtain ⟨previous, rfl⟩ := Nat.exists_eq_succ_of_ne_zero positive.ne'
  have units := units_of_wide finite wide first second
  obtain ⟨shift, significand, rfl, normal, bounded⟩ := exists_binade previous
  have next := unitsOfRank_two_steps normal bounded
  rw [Nat.add_assoc _ significand 1, unitsOfRank_binade shift significand normal bounded.le,
    unitsOfRank_binade shift (significand + 1) (by omega) (by omega)] at units
  have small : significand ≤ 13 := by
    have total : (10 * (2 * significand + 1)) * 2 ^ shift ≤ (9 * (2 * significand + 4)) * 2 ^ shift := by linarith
    have factor := Nat.le_of_mul_le_mul_right total (Nat.two_pow_pos shift)
    omega
  obtain rfl : shift = 0 := by omega
  have exactly := unitsOfRank_binade 0 (significand + 2) (Or.inl rfl) (by omega)
  simp only [Nat.zero_mul, Nat.zero_add, Nat.pow_zero, Nat.mul_one] at units exactly ⊢
  omega

private theorem small_power : 2 * 10 ^ 323 < 2 ^ 1074 ∧ 20 * 2 ^ 1074 < 41 * 10 ^ 323 := by decide +kernel

private theorem power_units : 2 < (10 : ℚ) ^ (-323 : ℤ) * unitsInOne ∧ 20 * ((10 : ℚ) ^ (-323 : ℤ) * unitsInOne) < 41 := by
  obtain ⟨low, high⟩ := small_power
  rw [← unitsInOne_eq] at low high
  have inverse : (10 : ℚ) ^ (-323 : ℤ) = 1 / (10 ^ 323 : ℕ) := by
    rw [Nat.cast_pow, one_div, Nat.cast_ofNat]
    exact zpow_negSucc 10 322
  have scale : (0 : ℚ) < (10 ^ 323 : ℕ) := by exact_mod_cast Nat.pow_pos (by decide)
  rw [inverse, one_div_mul_eq_div, ← mul_div_assoc, lt_div_iff₀ scale, div_lt_iff₀ scale]
  exact ⟨by exact_mod_cast low, by exact_mod_cast high⟩

private theorem eq_of_few_units {power : ℤ} (low : 1 ≤ 2 * ((10 : ℚ) ^ power * unitsInOne))
    (high : (10 : ℚ) ^ power * unitsInOne ≤ 10) : power = -323 := by
  obtain ⟨above, below⟩ := power_units
  have shifted : (10 : ℚ) ^ power = 10 ^ (power + 323) * 10 ^ (-323 : ℤ) := by
    rw [← zpow_add₀ (by norm_num), add_neg_cancel_right]
  rw [shifted, mul_assoc] at low high
  generalize (10 : ℚ) ^ (-323 : ℤ) * unitsInOne = units at *
  rcases lt_trichotomy power (-323) with less | same | more
  · have fine : (10 : ℚ) ^ (power + 323) ≤ 10 ^ (-1 : ℤ) := zpow_le_zpow_right₀ (by norm_num) (by omega)
    norm_num at fine
    nlinarith
  · exact same
  · have coarse : (10 : ℚ) ^ (1 : ℤ) ≤ 10 ^ (power + 323) := zpow_le_zpow_right₀ (by norm_num) (by omega)
    norm_num at coarse
    nlinarith

private theorem magnitude_of_few {rank : ℕ} (few : rank ≤ 10) : magnitudeOfRank rank * unitsInOne = rank := by
  have units := unitsOfRank_binade 0 rank (Or.inl rfl) (by omega)
  simp only [Nat.zero_mul, Nat.zero_add, Nat.pow_zero, Nat.mul_one] at units
  rw [magnitudeOfRank_def]
  dsimp only
  rw [units, div_mul_cancel₀ _ unitsInOne_pos.ne']

private theorem midpoints_of_few {previous : ℕ} {point : ℚ} (few : previous ≤ 8) (rounded : RoundsTo point (previous + 1)) :
    2 * previous + 1 ≤ 2 * (point * unitsInOne) ∧ 2 * (point * unitsInOne) ≤ 2 * previous + 3 := by
  have large : 9 < infinityRank := by decide
  have finite : previous + 1 < infinityRank := by omega
  obtain ⟨low, high⟩ := midpoints finite rounded
  have unit := unitsInOne_pos
  replace low := mul_le_mul_of_nonneg_right low unit.le
  replace high := mul_le_mul_of_nonneg_right high unit.le
  rw [add_mul, magnitude_of_few (by omega), magnitude_of_few (by omega), mul_assoc] at low
  rw [add_mul, magnitude_of_few (by omega), magnitude_of_few (by omega), mul_assoc] at high
  push_cast at low high
  constructor <;> linarith

/-- A basin that reaches from nine tenths of a power of ten to the power itself belongs to a number that is nearer to the
power. There is one such number, two units, and ten to the power of -323. -/
theorem power_nearer {rank : ℕ} {power : ℤ} {near : ℚ} (positive : 0 < rank) (finite : rank < infinityRank)
    (wide : 10 * near ≤ 9 * 10 ^ power) (first : RoundsTo near rank) (second : RoundsTo (10 ^ power) rank) :
    near + 10 ^ power ≤ 2 * magnitudeOfRank rank := by
  have small := rank_of_wide positive finite wide first second
  obtain ⟨previous, rfl⟩ := Nat.exists_eq_succ_of_ne_zero positive.ne'
  have few : previous ≤ 8 := by omega
  have bound : (previous : ℚ) ≤ 8 := by exact_mod_cast few
  have unit := unitsInOne_pos
  obtain ⟨low, high⟩ := midpoints_of_few few second
  obtain rfl : power = -323 := by
    apply eq_of_few_units
    · linarith [Nat.cast_nonneg (α := ℚ) previous]
    · linarith
  obtain ⟨above, below⟩ := power_units
  have scaled : 10 * (near * unitsInOne) ≤ 9 * (10 ^ (-323 : ℤ) * unitsInOne) := by
    have units := mul_le_mul_of_nonneg_right wide unit.le
    rwa [mul_assoc, mul_assoc] at units
  apply le_of_mul_le_mul_right _ unit
  rw [add_mul, mul_assoc, magnitude_of_few (by omega)]
  generalize (10 : ℚ) ^ (-323 : ℤ) * unitsInOne = units at *
  have two : (1 : ℚ) ≤ previous := by
    have after : 0 < previous := by
      by_contra! none
      obtain rfl := Nat.le_zero.mp none
      norm_num at high
      linarith
    exact_mod_cast after
  push_cast
  linarith

/-! The shortest decimal among all decimals of its number. -/

section
variable {x : Binary64} {d : Decimal}

/-- A power of ten between two decimals of a number is a decimal of that number, so it is no coarser than the shortest. -/
theorem le_exponent_of_between {power : ℤ} {low high : ℚ} (positive : 0 < x.rank) (finite : x.rank < infinityRank)
    (above : low ≤ 10 ^ power) (below : 10 ^ power ≤ high) (first : RoundsTo low x.rank) (last : RoundsTo high x.rank) :
    RoundsTo (10 ^ power) x.rank ∧ power ≤ x.shortest.exponent := by
  have rounded := first.between (by positivity) above below last
  refine ⟨rounded, ?_⟩
  rw [← Decimal.value_one] at rounded
  exact le_shortest_exponent positive finite rounded

theorem shortest_fewest {count : ℕ} (positive : 0 < x.rank) (finite : x.rank < infinityRank) (rounded : RoundsTo d.value x.rank)
    (short : d.coefficient < 10 ^ count) : x.shortest.coefficient < 10 ^ count := by
  by_contra! long
  have coarser := le_shortest_exponent positive finite rounded
  have above : d.value ≤ 10 ^ (x.shortest.exponent + count) :=
    (Decimal.value_lt short).le.trans (zpow_le_zpow_right₀ (by norm_num) (by omega))
  obtain ⟨-, bound⟩ := le_exponent_of_between positive finite above (Decimal.le_value long) rounded
    (x.shortest_roundsTo positive finite)
  obtain rfl : count = 0 := by omega
  have some := Decimal.coefficient_pos positive rounded
  omega

theorem shortest_nearest {count : ℕ} (positive : 0 < x.rank) (finite : x.rank < infinityRank)
    (rounded : RoundsTo d.value x.rank) (long : 10 ^ count ≤ x.shortest.coefficient) (short : d.coefficient < 10 ^ (count + 1)) :
    |x.shortest.value - magnitudeOfRank x.rank| ≤ |d.value - magnitudeOfRank x.rank| := by
  have found := Basin.coarsestPoint_found positive 633
  have onGrid : ∀ other : Decimal, other.exponent = x.shortest.exponent → RoundsTo other.value x.rank →
      |x.shortest.value - magnitudeOfRank x.rank| ≤ |other.value - magnitudeOfRank x.rank| :=
    fun other same => Basin.gridPoint?_nearest positive finite found same
  rcases (le_shortest_exponent positive finite rounded).eq_or_lt with same | finer
  · exact onGrid d same rounded
  · have above : d.value ≤ 10 ^ (x.shortest.exponent + count) :=
      (Decimal.value_lt short).le.trans (zpow_le_zpow_right₀ (by norm_num) (by push_cast; omega))
    obtain ⟨power, bound⟩ := le_exponent_of_between positive finite above (Decimal.le_value long) rounded
      (x.shortest_roundsTo positive finite)
    obtain rfl : count = 0 := by omega
    have wide : 10 * d.value ≤ 9 * 10 ^ x.shortest.exponent := by
      have digit : (d.coefficient : ℚ) ≤ 9 := by exact_mod_cast (by omega : d.coefficient ≤ 9)
      have fine : (10 : ℚ) ^ d.exponent ≤ 10 ^ (x.shortest.exponent - 1) := zpow_le_zpow_right₀ (by norm_num) (by omega)
      have step : (10 : ℚ) ^ x.shortest.exponent = 10 * 10 ^ (x.shortest.exponent - 1) := by
        rw [← zpow_one_add₀ (by norm_num), add_sub_cancel]
      rw [Decimal.value, step]
      have scaled := mul_le_mul digit fine (by positivity) (by norm_num)
      linarith
    rw [Nat.cast_zero, add_zero] at above power
    have near := power_nearer positive finite wide rounded power
    have closest := onGrid ⟨1, x.shortest.exponent⟩ rfl (by rwa [Decimal.value_one])
    rw [Decimal.value_one] at closest
    apply closest.trans
    rw [abs_sub_comm d.value, le_abs, abs_le]
    left
    constructor <;> linarith

/-- The magnitude of a decimal in a count of digits. Its number has no decimal with fewer digits and none as short that
is nearer. -/
structure FewestDigits (rank : ℕ) (magnitude : ℚ) (count : ℕ) : Prop where
  rounded : RoundsTo magnitude rank
  fewest : IsLeast {n | ∃ d : Decimal, d.coefficient < 10 ^ n ∧ RoundsTo d.value rank} count
  nearest : ∀ d : Decimal, d.coefficient < 10 ^ count → RoundsTo d.value rank →
    |magnitude - magnitudeOfRank rank| ≤ |d.value - magnitudeOfRank rank|

theorem shortest_fewestDigits (positive : 0 < x.rank) (finite : x.rank < infinityRank) :
    FewestDigits x.rank x.shortest.value (Nat.toDigits 10 x.shortest.coefficient).length := by
  have rounded := x.shortest_roundsTo positive finite
  have counted : ∀ {count}, x.shortest.coefficient < 10 ^ count ↔ (Nat.toDigits 10 x.shortest.coefficient).length ≤ count :=
    Decimal.lt_ten_pow_iff (Decimal.coefficient_pos positive rounded)
  refine ⟨rounded, ⟨⟨x.shortest, counted.mpr le_rfl, rounded⟩, ?_⟩, ?_⟩
  · rintro count ⟨d, short, other⟩
    exact counted.mp (shortest_fewest positive finite other short)
  · intro d short other
    obtain ⟨count, length⟩ := Nat.exists_eq_succ_of_ne_zero
      (List.length_pos_of_ne_nil (Nat.toDigits_ne_nil (n := x.shortest.coefficient) (b := 10))).ne'
    rw [length] at short
    apply shortest_nearest positive finite other _ short
    by_contra! long
    have fewer := counted.mp long
    omega

/-- If ten divided its coefficient, the shortest decimal would stand on a coarser grid. -/
theorem shortest_indivisible (positive : 0 < x.rank) (finite : x.rank < infinityRank) : ¬ 10 ∣ x.shortest.coefficient := by
  rintro ⟨count, tens⟩
  have same : (Decimal.mk count (x.shortest.exponent + 1)).value = x.shortest.value := by
    rw [Decimal.value, Decimal.value, tens, zpow_add_one₀ (by norm_num)]
    push_cast
    ring
  have rounded := x.shortest_roundsTo positive finite
  rw [← same] at rounded
  have coarser := le_shortest_exponent positive finite rounded
  simp only at coarser
  omega

/-- The shortest decimal is on the same side of a power of ten as its number, if the power rounds to a number that is not
below it. -/
theorem ten_pow_le_shortest_iff {power : ℤ} {limit : ℕ} (positive : 0 < x.rank) (finite : x.rank < infinityRank)
    (rounded : RoundsTo (10 ^ power) limit) (within : 10 ^ power ≤ magnitudeOfRank limit) :
    10 ^ power ≤ x.shortest.value ↔ 10 ^ power ≤ magnitudeOfRank x.rank := by
  have shortest := x.shortest_roundsTo positive finite
  have reached : 10 ^ power ≤ magnitudeOfRank x.rank ↔ limit ≤ x.rank := by
    constructor
    · intro above
      by_contra! below
      have nearer := rounded.closest x.rank finite.le
      rw [abs_of_nonneg (sub_nonneg.mpr within), abs_of_nonneg (sub_nonneg.mpr above)] at nearer
      have apart := magnitudeOfRank_strictMono below
      linarith
    · intro above
      exact within.trans (magnitudeOfRank_strictMono.monotone above)
  rw [reached]
  constructor
  · intro above
    exact rounded.mono above shortest
  · intro above
    rcases above.eq_or_lt with rfl | beyond
    · have coarser : power ≤ x.shortest.exponent := by
        apply le_shortest_exponent (d := ⟨1, power⟩) positive finite
        rwa [Decimal.value_one]
      have some : 10 ^ 0 ≤ x.shortest.coefficient := Decimal.coefficient_pos positive shortest
      have long := Decimal.le_value some
      rw [Nat.cast_zero, add_zero] at long
      exact (zpow_le_zpow_right₀ (by norm_num) coarser).trans long
    · by_contra! below
      exact absurd (shortest.mono below.le rounded) (by omega)

theorem exists_ten_pow_sixteen : ∃ limit < infinityRank, magnitudeOfRank limit = 10 ^ 16 := by
  refine ⟨1075 * 2 ^ 52 + 5 * 10 ^ 15, by decide, ?_⟩
  rw [magnitudeOfRank_binade 1075 (5 * 10 ^ 15) (by norm_num) (by norm_num)]
  norm_num

private theorem exists_ten_thousandth :
    ∃ limit, RoundsTo (10 ^ (-4 : ℤ)) limit ∧ 10 ^ (-4 : ℤ) ≤ magnitudeOfRank limit := by
  obtain ⟨floor, finite, below, above⟩ : ∃ floor, floor + 1 ≤ infinityRank ∧
      magnitudeOfRank floor = 7378697629483820 / 2 ^ 66 ∧ magnitudeOfRank (floor + 1) = 7378697629483821 / 2 ^ 66 := by
    refine ⟨1008 * 2 ^ 52 + 7378697629483820, by decide, ?_, ?_⟩
    · rw [magnitudeOfRank_binade 1008 7378697629483820 (by norm_num) (by norm_num)]
      norm_num
    · rw [Nat.add_assoc, magnitudeOfRank_binade 1008 (7378697629483820 + 1) (by norm_num) (by norm_num)]
      norm_num
  refine ⟨floor + 1, ?_, ?_⟩
  · apply Nearest.of_between magnitudeOfRank_strictMono (Set.mem_Iic.mpr finite)
    · rw [below]
      norm_num
    · rw [above]
      norm_num
    · right
      rw [below, above]
      norm_num
    · rw [below, above]
      norm_num
  · rw [above]
    norm_num

theorem leadingExponent_range (positive : 0 < x.rank) (finite : x.rank < infinityRank) :
    -4 ≤ x.shortest.leadingExponent ∧ x.shortest.leadingExponent < 16 ↔
      1 / 10 ^ 4 ≤ magnitudeOfRank x.rank ∧ magnitudeOfRank x.rank < 10 ^ 16 := by
  have leading := Decimal.coefficient_pos positive (x.shortest_roundsTo positive finite)
  obtain ⟨low, nearest, above⟩ := exists_ten_thousandth
  obtain ⟨high, bounded, same⟩ := exists_ten_pow_sixteen
  have limit : magnitudeOfRank high = 10 ^ (16 : ℤ) := by
    rw [same]
    norm_num
  have exactly := roundsTo_exact bounded.le
  rw [limit] at exactly
  have least := ten_pow_le_shortest_iff positive finite nearest above
  have great := ten_pow_le_shortest_iff positive finite exactly limit.ge
  rw [← not_lt, Decimal.leadingExponent_lt_iff leading, not_lt, least, Decimal.leadingExponent_lt_iff leading, ← not_le, great,
    not_le]
  norm_num

end

end Binary64
end TabularQuery
