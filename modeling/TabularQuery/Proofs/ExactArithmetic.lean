import TabularQuery.Proofs.BinaryRounding

/-! Arithmetic whose exact result is itself a number. Such a result is not rounded: the sum of one number is that number,
also of a zero with its sign, and so is its quotient by one. -/

namespace TabularQuery.Binary64

theorem kind_cases (x : Binary64) :
    x.rank < infinityRank ∨ x = infinity x.negative ∨ x.isNaN = true := by
  rcases lt_trichotomy x.rank infinityRank with finite | infinite | beyond
  · exact Or.inl finite
  · exact Or.inr (Or.inl (ext_rank rfl infinite))
  · exact Or.inr (Or.inr (decide_eq_true beyond))

theorem nearestRank_exact {numerator denominator rank : ℕ} (finite : rank < infinityRank) (positive : 0 < denominator)
    (exact : numerator = unitsOfRank rank * denominator) : nearestRank numerator denominator = rank := by
  have rounded := nearestRank_roundsTo numerator positive
  have point : (numerator : ℚ) / denominator / 2 ^ 1074 = magnitudeOfRank rank := by
    have divisor : (denominator : ℚ) ≠ 0 := by exact_mod_cast positive.ne'
    rw [exact, Nat.cast_mul, mul_div_cancel_right₀ _ divisor, magnitudeOfRank]
  rw [point] at rounded
  exact rounded.unique (roundsTo_exact finite.le)

theorem nearest_exact {x : Binary64} {numerator denominator : ℕ} (finite : x.rank < infinityRank) (positive : 0 < denominator)
    (exact : numerator = x.units * denominator) : nearest x.negative numerator denominator = x := by
  have rank : nearestRank numerator denominator = x.rank := nearestRank_exact finite positive exact
  cases x
  rw [nearest]
  congr

theorem unitsOfRank_eq_zero {rank : ℕ} : unitsOfRank rank = 0 ↔ rank = 0 := by
  have origin : unitsOfRank 0 = 0 := rfl
  exact ⟨fun none => unitsOfRank_strictMono.injective (none.trans origin.symm), fun zero => zero ▸ origin⟩

theorem signedUnits_eq_zero {x : Binary64} : x.signedUnits = 0 ↔ x.rank = 0 := by
  unfold signedUnits units
  split <;> simp [unitsOfRank_eq_zero]

theorem natAbs_signedUnits (x : Binary64) : x.signedUnits.natAbs = x.units := by
  unfold signedUnits
  split <;> simp

theorem signedUnits_neg {x : Binary64} (nonzero : x.rank ≠ 0) : x.signedUnits < 0 ↔ x.negative = true := by
  have positive : 0 < x.units := Nat.pos_of_ne_zero (mt unitsOfRank_eq_zero.mp nonzero)
  unfold signedUnits
  split
  next negative => simp [negative, positive]
  next positive => simp [positive]

theorem nearest_signedUnits {x : Binary64} (finite : x.rank < infinityRank) (nonzero : x.rank ≠ 0) :
    nearest (decide (x.signedUnits < 0)) x.signedUnits.natAbs 1 = x := by
  have sign : decide (x.signedUnits < 0) = x.negative := by
    rw [Bool.eq_iff_iff, decide_eq_true_iff]
    exact signedUnits_neg nonzero
  rw [sign, natAbs_signedUnits]
  exact nearest_exact finite Nat.one_pos (Nat.mul_one _).symm

theorem add_finite {x y : Binary64} (first : x.rank < infinityRank) (second : y.rank < infinityRank) : x.add y =
    if x.signedUnits + y.signedUnits = 0 then zero (x.negative && y.negative)
    else nearest (decide (x.signedUnits + y.signedUnits < 0)) (x.signedUnits + y.signedUnits).natAbs 1 := by
  simp only [add, isNaN, isInfinite, first.ne, second.ne, first.not_gt, second.not_gt, decide_false, Bool.or_self,
    Bool.false_eq_true, if_false]

theorem divide_finite {x y : Binary64} (first : x.rank < infinityRank) (second : y.rank < infinityRank) (nonzero : y.rank ≠ 0) :
    x.divide y = nearest (x.negative != y.negative) (x.units * unitsInOne) y.units := by
  simp only [divide, isNaN, isInfinite, first.ne, second.ne, first.not_gt, second.not_gt, nonzero, decide_false, Bool.or_self,
    Bool.false_eq_true, if_false]

private theorem zero_add_finite {x : Binary64} (finite : x.rank < infinityRank) : (zero true).add x = x := by
  have empty : (zero true).rank < infinityRank ∧ (zero true).signedUnits = 0 := by decide
  simp only [add_finite empty.1 finite, empty.2, zero_add, signedUnits_eq_zero]
  split
  next zero => exact ext_rank (Bool.true_and x.negative) zero.symm
  next nonzero => exact nearest_signedUnits finite nonzero

theorem sum_singleton (x : Binary64) : sum [x] = if x.isNaN then nan else x := by
  show (zero true).add x = _
  rcases x.kind_cases with finite | infinite | absent
  · rw [if_neg (by simpa [isNaN] using finite.le)]
    exact zero_add_finite finite
  · rw [infinite]
    cases x.negative <;> decide
  · simp [add, absent]

private theorem one_eq : (ofNat 1).rank < infinityRank ∧ (ofNat 1).negative = false ∧ (ofNat 1).rank ≠ 0 ∧
    (ofNat 1).units = unitsInOne := by
  decide +kernel

private theorem divide_one_finite {x : Binary64} (finite : x.rank < infinityRank) : x.divide (ofNat 1) = x := by
  have positive : 0 < unitsInOne := by exact_mod_cast unitsInOne_pos
  obtain ⟨oneFinite, oneSign, oneRank, oneUnits⟩ := one_eq
  rw [divide_finite finite oneFinite oneRank, oneSign, oneUnits, Bool.bne_false]
  exact nearest_exact finite positive rfl

theorem divide_one (x : Binary64) : x.divide (ofNat 1) = if x.isNaN then nan else x := by
  rcases x.kind_cases with finite | infinite | absent
  · rw [if_neg (by simpa [isNaN] using finite.le)]
    exact divide_one_finite finite
  · rw [infinite]
    cases x.negative <;> decide +kernel
  · simp [divide, absent]

end TabularQuery.Binary64
