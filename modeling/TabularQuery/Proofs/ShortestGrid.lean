import TabularQuery.Proofs.ShortestDecimal

/-! The shortest decimal of a number stands on the coarsest grid that has any decimal of that
number, since the decimals that round to a rank are exactly those of its basin. -/

namespace TabularQuery

namespace Basin
open Binary64

private theorem nearest_units {halves : ℚ} {rank : ℕ} (rounded : RoundsTo (halves / (2 * unitsInOne)) rank) :
    Nearest (fun rank => (unitsOfRank rank : ℚ)) (Set.Iic infinityRank) (halves / 2) rank := by
  have unit := unitsInOne_pos
  rw [RoundsTo, magnitudeOfRank_def] at rounded
  have scaled := rounded.scaled (one_div_pos.mpr unit)
  have point : halves / (2 * unitsInOne) / (1 / unitsInOne) = halves / 2 := by field_simp
  have places : (fun rank => (unitsOfRank rank : ℚ) / unitsInOne / (1 / unitsInOne)) = fun rank => (unitsOfRank rank : ℚ) := by
    funext rank
    field_simp
  rwa [point, places] at scaled

/-- The midpoints belong to the basins of even ranks, as a tie goes to the even rank. -/
theorem contains_of_roundsTo {rank numerator denominator : ℕ} (positive : 0 < rank) (finite : rank < infinityRank)
    (divisor : 0 < denominator) (rounded : RoundsTo (numerator / denominator / (2 * unitsInOne)) rank) :
    (ofRank rank).contains numerator denominator = true := by
  have nearest := nearest_units rounded
  have scale : (0 : ℚ) < denominator := by exact_mod_cast divisor
  have double : 2 * ((numerator : ℚ) / denominator / 2) = numerator / denominator := by ring
  have before : rank - 1 ∈ Set.Iic infinityRank := Set.mem_Iic.mpr (by omega)
  have after : rank + 1 ∈ Set.Iic infinityRank := Set.mem_Iic.mpr (by omega)
  have next : rank - 1 + 1 = rank := Nat.sub_add_cancel positive
  have beyond : ¬ rank ≤ rank - 1 := by omega
  by_cases even : rank % 2 = 0
  · have low := (nearest.le_odd_iff units_cast_strictMono before (next ▸ nearest.member)
      (by rw [Nat.even_iff]; omega)).not.mp beyond
    have high := (nearest.le_even_iff units_cast_strictMono nearest.member after (Nat.even_iff.mpr even)).mp le_rfl
    rw [next, double, not_lt, le_div_iff₀ scale] at low
    rw [double, div_le_iff₀ scale] at high
    simp only [contains, ofRank, even, decide_true, if_true, decide_eq_true_eq]
    exact ⟨by exact_mod_cast low, by exact_mod_cast high⟩
  · have low := (nearest.le_even_iff units_cast_strictMono before (next ▸ nearest.member)
      (by rw [Nat.even_iff]; omega)).not.mp beyond
    have high := (nearest.le_odd_iff units_cast_strictMono nearest.member after (by rwa [Nat.even_iff])).mp le_rfl
    rw [next, double, not_le, lt_div_iff₀ scale] at low
    rw [double, div_lt_iff₀ scale] at high
    simp only [contains, ofRank, even, decide_false, Bool.false_eq_true, if_false, decide_eq_true_eq]
    exact ⟨by exact_mod_cast low, by exact_mod_cast high⟩

theorem le_coarsestPoint {basin : Basin} {target height : ℕ} {d : Decimal}
    (found : basin.gridPoint? ((target : ℤ) - 324) = some d) (within : target ≤ height) :
    (target : ℤ) - 324 ≤ (basin.coarsestPoint height).exponent := by
  induction height with
  | zero =>
    obtain rfl := Nat.le_zero.mp within
    have finest : basin.gridPoint? (-324) = some d := found
    rw [coarsestPoint, finest, Option.getD_some, (gridPoint?_contains finest).1]
    omega
  | succ height ih =>
    rw [coarsestPoint]
    cases coarser : basin.gridPoint? ((height : ℤ) + 1 - 324) with
    | some point =>
      rw [Option.getD_some, (gridPoint?_contains coarser).1]
      omega
    | none =>
      have different : target ≠ height + 1 := by
        rintro rfl
        rw [Nat.cast_add, Nat.cast_one, coarser] at found
        cases found
      exact ih (by omega)

theorem neg_le_coarsestPoint (basin : Basin) (height : ℕ) : -324 ≤ (basin.coarsestPoint height).exponent := by
  induction height with
  | zero =>
    rw [coarsestPoint]
    cases finest : basin.gridPoint? (-324) with
    | none => exact le_rfl
    | some d => exact (gridPoint?_contains finest).1.ge
  | succ height ih =>
    rw [coarsestPoint]
    cases coarser : basin.gridPoint? ((height : ℤ) + 1 - 324) with
    | none => exact ih
    | some d =>
      rw [Option.getD_some, (gridPoint?_contains coarser).1]
      omega

end Basin

namespace Decimal
open Binary64

private theorem overflow_lt : 2 ^ 1024 ≤ 10 ^ 309 := by decide +kernel

theorem exponent_lt_of_finite {d : Decimal} {rank : ℕ} (positive : 0 < rank) (finite : rank < infinityRank)
    (rounded : RoundsTo d.value rank) : d.exponent < 309 := by
  by_contra! large
  have coefficient : (1 : ℚ) ≤ d.coefficient := by exact_mod_cast coefficient_pos positive rounded
  have overflow : (2 : ℚ) ^ 1024 ≤ d.value :=
    calc (2 : ℚ) ^ 1024 ≤ 10 ^ 309 := by exact_mod_cast overflow_lt
      _ = 10 ^ (309 : ℤ) := (zpow_natCast 10 309).symm
      _ ≤ 10 ^ d.exponent := zpow_le_zpow_right₀ (by norm_num) large
      _ ≤ d.coefficient * 10 ^ d.exponent := le_mul_of_one_le_left (by positivity) coefficient
  exact absurd (rounded.unique (roundsTo_infinity overflow)) finite.ne

end Decimal

/-- Of the decimals that round to a number none has a greater exponent than the shortest one. -/
theorem Binary64.le_shortest_exponent {x : Binary64} {d : Decimal} (positive : 0 < x.rank) (finite : x.rank < infinityRank)
    (rounded : RoundsTo d.value x.rank) : d.exponent ≤ x.shortest.exponent := by
  have high := Decimal.exponent_lt_of_finite positive finite rounded
  rcases le_or_gt d.exponent (-324) with fine | low
  · exact fine.trans (Basin.neg_le_coarsestPoint _ _)
  · have target : ((d.exponent + 324).toNat : ℤ) - 324 = d.exponent := by omega
    rw [← Basin.gridPoint_value] at rounded
    have inside := Basin.contains_of_roundsTo positive finite (Decimal.fraction_pos _) rounded
    obtain ⟨point, found⟩ := Basin.gridPoint?_of_contains _ positive inside
    rw [← target] at found
    have within : (d.exponent + 324).toNat ≤ 633 := by omega
    have exponent := Basin.le_coarsestPoint found within
    rwa [target] at exponent

end TabularQuery
