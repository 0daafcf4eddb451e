import TabularQuery.Proofs.ExactArithmetic
import TabularQuery.Proofs.ExactOrder
import TabularQuery.Proofs.SummaryOutcome

/-! The average of whole numbers. Up to 2⁵³ every whole number is a number, so while the magnitudes add up to no more no
partial sum is rounded, in whatever order the numbers are added. The count of the rows is not rounded either, so before the
average is put to two places it is rounded once, by the division. -/

namespace TabularQuery

namespace Binary64

/-- A finite number that equals a whole number. The sign of zero is left open. -/
structure Whole (x : Binary64) (n : ℤ) : Prop where
  finite : x.rank < infinityRank
  exact : x.signedUnits = n * unitsInOne

/-- The number nearest to a whole number. The sign counts for zero only. -/
def ofWhole (negative : Bool) (n : ℤ) : Binary64 :=
  nearest (if n = 0 then negative else decide (n < 0)) (n.natAbs * unitsInOne) 1

variable {x y : Binary64} {a b n : ℤ}

private theorem units_pos : (0 : ℤ) < unitsInOne := by exact_mod_cast unitsInOne_pos

/-- Doubled often enough, a whole number has all the bits of a significand. -/
theorem exists_significand {n : ℕ} (positive : n ≠ 0) (small : n ≤ 2 ^ 53) :
    ∃ doublings ≤ 52, 2 ^ 52 ≤ n * 2 ^ doublings ∧ n * 2 ^ doublings ≤ 2 ^ 53 := by
  have low := Nat.log2_self_le positive
  have high := @Nat.lt_log2_self n
  rcases Nat.le_total n.log2 52 with few | all
  · have normal : 2 ^ 52 = 2 ^ n.log2 * 2 ^ (52 - n.log2) := by rw [← pow_add, Nat.add_sub_cancel' few]
    have bound : 2 ^ 53 = 2 ^ (n.log2 + 1) * 2 ^ (52 - n.log2) := by
      rw [← pow_add]
      congr 1
      omega
    refine ⟨52 - n.log2, Nat.sub_le _ _, ?_, ?_⟩
    · rw [normal]
      exact Nat.mul_le_mul_right _ low
    · rw [bound]
      exact Nat.mul_le_mul_right _ high.le
  · refine ⟨0, Nat.zero_le _, ?_, ?_⟩
    · rw [pow_zero, mul_one]
      exact (Nat.pow_le_pow_right (by decide) all).trans low
    · rwa [pow_zero, mul_one]

theorem exists_rank_of_whole {n : ℕ} (small : n ≤ 2 ^ 53) : ∃ rank < infinityRank, unitsOfRank rank = n * unitsInOne := by
  by_cases none : n = 0
  · refine ⟨0, by decide, ?_⟩
    rw [none, Nat.zero_mul]
    rfl
  · obtain ⟨doublings, few, normal, bounded⟩ := exists_significand none small
    refine ⟨(1074 - doublings) * 2 ^ 52 + n * 2 ^ doublings, ?_, ?_⟩
    · have binade : (1074 - doublings) * 2 ^ 52 ≤ 1074 * 2 ^ 52 := Nat.mul_le_mul_right _ (Nat.sub_le _ _)
      exact (Nat.add_le_add binade bounded).trans_lt (by decide)
    · have exponent : doublings + (1074 - doublings) = 1074 := by omega
      rw [unitsOfRank_binade _ _ (Or.inr normal) bounded, mul_assoc, ← pow_add, exponent, ← unitsInOne_eq]

theorem whole_iff : x.Whole n ↔
    x.rank < infinityRank ∧ x.units = n.natAbs * unitsInOne ∧ if x.negative then n ≤ 0 else 0 ≤ n := by
  constructor
  · rintro ⟨finite, exact⟩
    refine ⟨finite, ?_, ?_⟩
    · rw [← natAbs_signedUnits, exact, Int.natAbs_mul, Int.natAbs_natCast]
    · unfold signedUnits at exact
      split
      next negative =>
        rw [if_pos negative] at exact
        exact nonpos_of_mul_nonpos_left (exact ▸ by simp) units_pos
      next positive =>
        rw [if_neg positive] at exact
        exact nonneg_of_mul_nonneg_left (exact ▸ by simp) units_pos
  · rintro ⟨finite, magnitude, side⟩
    refine ⟨finite, ?_⟩
    unfold signedUnits
    rw [magnitude, Nat.cast_mul]
    split
    next negative =>
      rw [if_pos negative] at side
      rw [Int.ofNat_natAbs_of_nonpos side, neg_mul, neg_neg]
    next positive =>
      rw [if_neg positive] at side
      rw [Int.natAbs_of_nonneg side]

theorem ofWhole_negative (negative : Bool) (n : ℤ) :
    (ofWhole negative n).negative = if n = 0 then negative else decide (n < 0) := rfl

theorem ofWhole_zero (negative : Bool) : ofWhole negative 0 = zero negative := by
  refine ext_rank rfl ?_
  show nearestRank (0 * unitsInOne) 1 = 0
  rw [Nat.zero_mul]
  decide

theorem ofWhole_whole (negative : Bool) (small : n.natAbs ≤ 2 ^ 53) : (ofWhole negative n).Whole n := by
  obtain ⟨rank, finite, exact⟩ := exists_rank_of_whole small
  have same : (ofWhole negative n).rank = rank := nearestRank_exact finite Nat.one_pos (by rw [exact, Nat.mul_one])
  refine whole_iff.mpr ⟨same ▸ finite, by rw [units, same, exact], ?_⟩
  rw [ofWhole_negative]
  grind

theorem Whole.eq (whole : x.Whole n) : x = ofWhole x.negative n := by
  obtain ⟨finite, magnitude, side⟩ := whole_iff.mp whole
  by_cases zero : n = 0
  · subst zero
    rw [ofWhole_zero]
    exact ext_rank rfl (unitsOfRank_eq_zero.mp (by simpa [units] using magnitude))
  · have sign : decide (n < 0) = x.negative := by
      grind
    rw [ofWhole, if_neg zero, sign, nearest_exact finite Nat.one_pos (by rw [magnitude, Nat.mul_one])]

theorem Whole.add (first : x.Whole a) (second : y.Whole b) : x.add y = ofWhole (x.negative && y.negative) (a + b) := by
  have total : x.signedUnits + y.signedUnits = (a + b) * unitsInOne := by rw [first.exact, second.exact, add_mul]
  simp only [add_finite first.finite second.finite, total, mul_eq_zero, units_pos.ne', or_false]
  split
  next zero => rw [zero, ofWhole_zero]
  next nonzero =>
    simp only [ofWhole, nonzero, if_false, Int.natAbs_mul, Int.natAbs_natCast, mul_neg_iff, units_pos, units_pos.not_gt,
      and_true, and_false, false_or]

theorem Whole.nonpos (whole : x.Whole n) (negative : x.negative = true) : n ≤ 0 := by
  obtain ⟨-, -, side⟩ := whole_iff.mp whole
  rwa [if_pos negative] at side

theorem sum_nonpos {numbers : List Binary64} {values : List ℤ} (wholes : List.Forall₂ Whole numbers values)
    (negative : numbers.all Binary64.negative = true) : values.sum ≤ 0 := by
  induction wholes with
  | nil => exact le_rfl
  | cons whole _ ih =>
    rw [List.all_cons, Bool.and_eq_true] at negative
    rw [List.sum_cons]
    exact add_nonpos (whole.nonpos negative.1) (ih negative.2)

theorem ofWhole_congr {negative other : Bool} (same : n = 0 → negative = other) : ofWhole negative n = ofWhole other n := by
  unfold ofWhole
  split
  next zero => rw [same zero]
  next => rfl

/-- While the magnitudes that are left fit, so does every partial sum. A sum of zero is negative only if all its terms are. -/
theorem foldl_add_whole {numbers : List Binary64} {values : List ℤ} (wholes : List.Forall₂ Whole numbers values)
    {start : Binary64} {n : ℤ} (started : start.Whole n) (small : n.natAbs + (values.map Int.natAbs).sum ≤ 2 ^ 53) :
    numbers.foldl add start = ofWhole (start.negative && numbers.all negative) (n + values.sum) := by
  induction wholes generalizing start n with
  | nil => simpa using started.eq
  | @cons x value rest more whole others ih =>
    rw [List.map_cons, List.sum_cons] at small
    have fits : (n + value).natAbs + (more.map Int.natAbs).sum ≤ 2 ^ 53 := by
      have triangle := Int.natAbs_add_le n value
      omega
    have continued := ofWhole_whole (start.negative && x.negative) (Nat.le_trans (Nat.le_add_right _ _) fits)
    rw [List.foldl_cons, started.add whole, ih continued fits, List.sum_cons, ← add_assoc, List.all_cons]
    apply ofWhole_congr
    intro zero
    cases negative : rest.all Binary64.negative with
    | false => simp
    | true =>
      have left := sum_nonpos others negative
      have first := started.nonpos
      have second := whole.nonpos
      rw [ofWhole_negative]
      grind

theorem sum_whole {numbers : List Binary64} {values : List ℤ} (wholes : List.Forall₂ Whole numbers values)
    (small : (values.map Int.natAbs).sum ≤ 2 ^ 53) : sum numbers = ofWhole (numbers.all negative) values.sum := by
  have empty : (zero true).Whole 0 := ⟨by decide, by decide⟩
  have folded := foldl_add_whole wholes empty (by simpa using small)
  rwa [zero_add] at folded

theorem divide_approximates (finite : x.rank < infinityRank) (bounded : y.rank < infinityRank) (nonzero : y.rank ≠ 0) :
    Approximates (x.signedUnits / y.signedUnits) (x.divide y) := by
  have positive : 0 < y.units := Nat.pos_of_ne_zero (mt unitsOfRank_eq_zero.mp nonzero)
  have signed : (x.signedUnits : ℚ) / y.signedUnits =
      if (x.divide y).negative then -((x.units : ℚ) / y.units) else x.units / y.units := by
    simp only [divide_finite finite bounded nonzero, signedUnits, nearest]
    cases x.negative <;> cases y.negative <;> simp [neg_div, div_neg]
  rw [signed]
  apply approximates_signed (div_nonneg (Nat.cast_nonneg _) (Nat.cast_nonneg _))
  rw [divide_finite finite bounded nonzero]
  exact nearestRank_unitsInOne x.units positive

theorem Whole.divide (first : x.Whole a) (second : y.Whole b) (nonzero : b ≠ 0) : Approximates (a / b) (x.divide y) := by
  have unit : (unitsInOne : ℚ) ≠ 0 := unitsInOne_pos.ne'
  have divisor : y.rank ≠ 0 := by
    rw [Ne, ← signedUnits_eq_zero, second.exact, mul_eq_zero, not_or]
    exact ⟨nonzero, units_pos.ne'⟩
  have rounded := divide_approximates first.finite second.finite divisor
  rw [first.exact, second.exact] at rounded
  push_cast at rounded
  rwa [mul_div_mul_right _ _ unit] at rounded

theorem whole_ofNat {n : ℕ} (small : n ≤ 2 ^ 53) : (ofNat n).Whole n := by
  have sign : (if (n : ℤ) = 0 then false else decide ((n : ℤ) < 0)) = false := by
    split <;> simp
  have same : ofNat n = ofWhole false n := by rw [ofWhole, sign, Int.natAbs_natCast, ofNat]
  rw [same]
  exact ofWhole_whole false small

/-- Whole numbers have the same sum in every order, also where it is a zero with its sign. -/
theorem sum_reordered {numbers others : List Binary64} {values : List ℤ} (wholes : List.Forall₂ Whole numbers values)
    (small : (values.map Int.natAbs).sum ≤ 2 ^ 53) (reordered : numbers.Perm others) : sum others = sum numbers := by
  obtain ⟨later, again, same⟩ := List.perm_comp_forall₂ reordered.symm wholes
  have bound : (later.map Int.natAbs).sum ≤ 2 ^ 53 := by
    rwa [(same.map Int.natAbs).sum_eq]
  rw [sum_whole wholes small, sum_whole again bound, same.sum_eq, reordered.all_eq]

end Binary64

namespace Dataset

/-- The whole numbers as which the fields of a column are read, row by row. -/
def Wholes (dataset : Dataset) (index : ℕ) (values : List ℤ) : Prop :=
  List.Forall₂ (fun row n => ∃ x, Literal.parse? (Row.field row index) = some x ∧ x.Whole n) dataset.rows values

variable {dataset other : Dataset} {index : ℕ}

theorem Wholes.numbers {values : List ℤ} (wholes : dataset.Wholes index values) :
    ∃ numbers, dataset.Numbers index numbers ∧ List.Forall₂ Binary64.Whole numbers values := by
  obtain ⟨header, rows⟩ := dataset
  change List.Forall₂ _ rows values at wholes
  induction wholes with
  | nil => exact ⟨[], rfl, .nil⟩
  | cons whole _ ih =>
    obtain ⟨x, read, whole⟩ := whole
    obtain ⟨numbers, others, rest⟩ := ih
    refine ⟨x :: numbers, ?_, .cons whole rest⟩
    simp only [Numbers, columnValues, List.map_cons, List.map_map] at others ⊢
    rw [read, others]

theorem Numbers.reordered {numbers : List Binary64} (held : dataset.Numbers index numbers)
    (reordered : dataset.rows.Perm other.rows) : ∃ others, other.Numbers index others ∧ numbers.Perm others := by
  obtain ⟨others, again⟩ := exists_numbers fun row member => held.numeric row (reordered.mem_iff.mpr member)
  refine ⟨others, again, (List.map_perm_map_iff (Option.some_injective _)).mp ?_⟩
  rw [← held, ← again]
  exact (reordered.map _).map _

end Dataset

namespace Summary

theorem measure_average {dataset : Dataset} {column : String} {index : ℕ} {numbers : List Binary64}
    (found : dataset.column? column = some index) (held : dataset.Numbers index numbers) (nonempty : dataset.rows ≠ []) :
    (Summary.mk column .average).measure dataset =
      .ok (.number ((Binary64.sum numbers).divide (.ofNat dataset.rows.length)).roundHundredths) := by
  cases numbers with
  | nil => exact absurd (held.rows_eq_nil_iff.mpr rfl) nonempty
  | cons first rest =>
    rw [held.length_eq]
    exact measure_eq_ok_iff.mpr ⟨index, first :: rest, found, held, rfl⟩

/-- If the fields of a column are whole numbers, and there are no more of them and their magnitudes add up to no more than 2⁵³,
then their average is the number nearest to the exact quotient, rounded to two places. Rows in another order have the same
average. -/
theorem measure_average_whole {dataset : Dataset} {column : String} {index : ℕ} {values : List ℤ}
    (named : dataset.FirstNamed column index) (wholes : dataset.Wholes index values) (nonempty : dataset.rows ≠ [])
    (few : dataset.rows.length ≤ 2 ^ 53) (small : (values.map Int.natAbs).sum ≤ 2 ^ 53) :
    ∃ quotient, Binary64.Approximates ((values.sum : ℚ) / dataset.rows.length) quotient ∧
      (Summary.mk column .average).measure dataset = .ok (.number quotient.roundHundredths) ∧
      ∀ other, other.header = dataset.header → dataset.rows.Perm other.rows →
        (Summary.mk column .average).measure other = .ok (.number quotient.roundHundredths) := by
  obtain ⟨numbers, held, read⟩ := wholes.numbers
  have found := Dataset.column?_eq_some_iff.mpr named
  refine ⟨_, ?_, measure_average found held nonempty, ?_⟩
  · have total : (Binary64.sum numbers).Whole values.sum := by
      rw [Binary64.sum_whole read small]
      have triangle := List.le_sum_of_subadditive Int.natAbs Int.natAbs_zero.le Int.natAbs_add_le values
      exact Binary64.ofWhole_whole _ (triangle.trans small)
    have count : ((dataset.rows.length : ℕ) : ℤ) ≠ 0 := by
      rwa [Ne, Nat.cast_eq_zero, List.length_eq_zero_iff]
    exact_mod_cast total.divide (Binary64.whole_ofNat few) count
  · intro other header reordered
    obtain ⟨others, again, same⟩ := held.reordered reordered
    have refound : other.column? column = some index := by
      rwa [Dataset.column?, header]
    have remains : other.rows ≠ [] := by
      rintro empty
      exact nonempty (List.Perm.eq_nil (empty ▸ reordered))
    rw [measure_average refound again remains, Binary64.sum_reordered read small same, reordered.length_eq]

/-- Whole numbers of both signs and a negative zero, none of them written as digits alone. -/
theorem measure_average_whole_mixed :
    let dataset := Dataset.mk ["name", "price"] [["a", " 1_000 "], ["b", "-7.1e1"], ["c", "-0"]]
    let reversed := Dataset.mk ["name", "price"] [["c", "-0"], ["b", "-7.1e1"], ["a", " 1_000 "]]
    dataset.FirstNamed "price" 1 ∧ dataset.Wholes 1 [1000, -71, 0] ∧ ([1000, -71, 0].map Int.natAbs).sum ≤ 2 ^ 53 ∧
    ∃ quotient, Binary64.Approximates (929 / 3) quotient ∧
      (Summary.mk "price" .average).measure dataset = .ok (.number quotient.roundHundredths) ∧
      (Summary.mk "price" .average).measure reversed = .ok (.number quotient.roundHundredths) := by
  intro dataset reversed
  have named : dataset.FirstNamed "price" 1 := ⟨rfl, by decide⟩
  have wholes : dataset.Wholes 1 [1000, -71, 0] :=
    .cons ⟨.ofWhole false 1000, by decide +kernel, Binary64.ofWhole_whole _ (by decide)⟩
      (.cons ⟨.ofWhole true (-71), by decide +kernel, Binary64.ofWhole_whole _ (by decide)⟩
        (.cons ⟨.ofWhole true 0, by decide +kernel, Binary64.ofWhole_whole _ (by decide)⟩ .nil))
  have small : ([1000, -71, 0].map Int.natAbs).sum ≤ 2 ^ 53 := by decide
  obtain ⟨quotient, rounded, measured, orders⟩ :=
    measure_average_whole named wholes (List.cons_ne_nil _ _) (by decide) small
  have exact : ((([1000, -71, 0] : List ℤ).sum : ℤ) : ℚ) / dataset.rows.length = 929 / 3 := by simp [dataset]
  exact ⟨named, wholes, small, quotient, exact ▸ rounded, measured, orders reversed rfl (by decide)⟩

end Summary
end TabularQuery
