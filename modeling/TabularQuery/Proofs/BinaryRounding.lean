import Mathlib.Algebra.Order.Floor.Semifield
import Mathlib.Algebra.Ring.Parity
import Mathlib.Data.Nat.Cast.Order.Field
import Mathlib.Tactic.Positivity
import Mathlib.Tactic.FieldSimp
import TabularQuery.Number.Binary64
import TabularQuery.Proofs.Nearest

/-! Division rounds to the nearest whole number and conversion to the nearest binary number.
The magnitudes are a scale over the ranks, and infinity takes part as the place where the
next binade would begin, which is how overflow is decided. -/

namespace TabularQuery.Binary64

theorem divideEven_choice (numerator denominator : ℕ) :
    let floor := numerator / denominator
    (divideEven numerator denominator = floor ∧ 2 * numerator ≤ (2 * floor + 1) * denominator ∨
      divideEven numerator denominator = floor + 1 ∧ (2 * floor + 1) * denominator ≤ 2 * numerator) ∧
    (2 * numerator = (2 * floor + 1) * denominator → Even (divideEven numerator denominator)) := by
  have split := Nat.div_add_mod numerator denominator
  have expanded : (2 * (numerator / denominator) + 1) * denominator =
      2 * (denominator * (numerator / denominator)) + denominator := by ring
  simp only [divideEven, expanded]
  generalize numerator / denominator = floor at split ⊢
  generalize denominator * floor = whole at split ⊢
  split
  next small => exact ⟨Or.inl ⟨rfl, by omega⟩, fun tie => by omega⟩
  next notSmall =>
    split
    next large => exact ⟨Or.inr ⟨rfl, by omega⟩, fun tie => by omega⟩
    next notLarge =>
      refine ⟨?_, fun _ => Nat.even_iff.mpr (by omega)⟩
      rcases Nat.mod_two_eq_zero_or_one floor with parity | parity
      · exact Or.inl ⟨by omega, by omega⟩
      · exact Or.inr ⟨by omega, by omega⟩

/-- Where the scale is even around a quotient, division with ties to even finds the nearest
place. The offset of the places is even, so parity is that of the quotient. -/
theorem nearest_of_divideEven {scale : ℕ → ℚ} {places : Set ℕ} (increasing : StrictMono scale)
    {numerator denominator offset : ℕ} {step : ℚ} (positive : 0 < denominator) (stepPositive : 0 < step)
    (evenOffset : Even offset)
    (low : scale (offset + numerator / denominator) = (numerator / denominator : ℕ) * step)
    (high : scale (offset + numerator / denominator + 1) = ((numerator / denominator : ℕ) + 1) * step)
    (member : offset + divideEven numerator denominator ∈ places) :
    Nearest scale places (numerator / denominator * step) (offset + divideEven numerator denominator) := by
  obtain ⟨choice, tie⟩ := divideEven_choice numerator denominator
  have divisor : (0 : ℚ) < denominator := by exact_mod_cast positive
  have half : ∀ bound : ℕ, 2 * numerator ≤ bound * denominator → 2 * ((numerator : ℚ) / denominator) ≤ bound := by
    intro bound small
    rw [← mul_div_assoc, div_le_iff₀ divisor]
    exact_mod_cast small
  have half' : ∀ bound : ℕ, bound * denominator ≤ 2 * numerator → (bound : ℚ) ≤ 2 * ((numerator : ℚ) / denominator) := by
    intro bound large
    rw [← mul_div_assoc, le_div_iff₀ divisor]
    exact_mod_cast large
  have below := half' (2 * (numerator / denominator)) (by have := Nat.div_mul_le_self numerator denominator; linarith)
  have above := half (2 * (numerator / denominator + 1))
    (by have := Nat.lt_mul_of_div_lt (Nat.lt_succ_self (numerator / denominator)) positive; linarith)
  push_cast at below above
  have scaled : ∀ {a b : ℚ}, a ≤ b → a * step ≤ b * step := fun le => mul_le_mul_of_nonneg_right le stepPositive.le
  apply Nearest.of_between increasing member
  · rw [low]; linarith [scaled below]
  · rw [high]; linarith [scaled above]
  · rw [low, high]
    rcases choice with ⟨same, near⟩ | ⟨same, near⟩
    · have near := scaled (half _ near)
      push_cast at near
      exact Or.inl ⟨by rw [same], by linarith⟩
    · have near := scaled (half' _ near)
      push_cast at near
      exact Or.inr ⟨by rw [same, Nat.add_assoc], by linarith⟩
  · intro middle
    rw [low, high] at middle
    apply evenOffset.add
    apply tie
    have centre : 2 * ((numerator : ℚ) / denominator) = 2 * (numerator / denominator : ℕ) + 1 :=
      mul_right_cancel₀ stepPositive.ne' (by linarith)
    rw [← mul_div_assoc, div_eq_iff divisor.ne'] at centre
    exact_mod_cast centre

theorem divideEven_nearest (numerator : ℕ) {denominator : ℕ} (positive : 0 < denominator) :
    Nearest (fun n : ℕ => (n : ℚ)) Set.univ (numerator / denominator) (divideEven numerator denominator) := by
  have increasing : StrictMono (fun n : ℕ => (n : ℚ)) := Nat.strictMono_cast
  have nearest : Nearest (fun n : ℕ => (n : ℚ)) Set.univ (numerator / denominator * 1)
      (0 + divideEven numerator denominator) :=
    nearest_of_divideEven increasing positive one_pos Even.zero (by simp) (by simp) trivial
  rwa [mul_one, Nat.zero_add] at nearest

/-! The shifts of the definitions as powers of two. -/

theorem unitsOfRank_eq (rank : ℕ) :
    unitsOfRank rank = if rank < 2 ^ 52 then rank else (2 ^ 52 + rank % 2 ^ 52) * 2 ^ (rank / 2 ^ 52 - 1) := by
  rw [unitsOfRank, Nat.shiftLeft_eq]
  rfl

theorem nearestRank_eq (numerator denominator : ℕ) : nearestRank numerator denominator =
    let shift := Nat.log2 (numerator / denominator) - 52
    min (shift * 2 ^ 52 + divideEven numerator (denominator * 2 ^ shift)) infinityRank := by
  rw [nearestRank, Nat.shiftLeft_eq]
  rfl

theorem unitsInOne_eq : unitsInOne = 2 ^ 1074 := by
  rw [unitsInOne]
  generalize 1074 = exponent
  exact Nat.one_shiftLeft exponent

/-! The magnitudes in units are strictly increasing, and even within a binade. -/

/-- The ranks of a binade count multiples of its step, up to and with the first rank of the next
one. The first two binades share a step. -/
theorem unitsOfRank_binade (shift significand : ℕ) (normal : shift = 0 ∨ 2 ^ 52 ≤ significand)
    (bounded : significand ≤ 2 ^ 53) : unitsOfRank (shift * 2 ^ 52 + significand) = significand * 2 ^ shift := by
  rw [unitsOfRank_eq]
  split
  next subnormal =>
    have first : shift = 0 := by omega
    simp [first]
  next =>
    rcases Nat.lt_or_ge significand (2 ^ 53) with inside | last
    · have exponent : (shift * 2 ^ 52 + significand) / 2 ^ 52 - 1 = shift := by omega
      have fraction : 2 ^ 52 + (shift * 2 ^ 52 + significand) % 2 ^ 52 = significand := by omega
      rw [exponent, fraction]
    · obtain rfl : significand = 2 ^ 53 := by omega
      have exponent : (shift * 2 ^ 52 + 2 ^ 53) / 2 ^ 52 - 1 = shift + 1 := by omega
      have fraction : (shift * 2 ^ 52 + 2 ^ 53) % 2 ^ 52 = 0 := by omega
      rw [exponent, fraction, Nat.pow_succ]
      ring

theorem exists_binade (rank : ℕ) : ∃ shift significand, rank = shift * 2 ^ 52 + significand ∧
    (shift = 0 ∨ 2 ^ 52 ≤ significand) ∧ significand < 2 ^ 53 := by
  rcases Nat.lt_or_ge rank (2 ^ 52) with subnormal | normal
  · exact ⟨0, rank, by omega, Or.inl rfl, by omega⟩
  · exact ⟨rank / 2 ^ 52 - 1, 2 ^ 52 + rank % 2 ^ 52, by omega, Or.inr (by omega), by omega⟩

theorem unitsOfRank_strictMono : StrictMono unitsOfRank := by
  apply strictMono_nat_of_lt_succ
  intro rank
  obtain ⟨shift, significand, rfl, normal, bounded⟩ := exists_binade rank
  rw [Nat.add_assoc, unitsOfRank_binade shift significand normal bounded.le,
    unitsOfRank_binade shift (significand + 1) (by omega) (by omega)]
  exact Nat.mul_lt_mul_of_pos_right (Nat.lt_succ_self _) (Nat.two_pow_pos _)

/-- The magnitude of a rank. That of infinity is the power of two after the greatest finite number. -/
def magnitudeOfRank (rank : ℕ) : ℚ := unitsOfRank rank / 2 ^ 1074

theorem magnitudeOfRank_strictMono : StrictMono magnitudeOfRank := by
  intro first second less
  exact div_lt_div_of_pos_right (Nat.cast_lt.mpr (unitsOfRank_strictMono less)) (by positivity)

theorem magnitudeOfRank_nonneg (rank : ℕ) : 0 ≤ magnitudeOfRank rank := by
  unfold magnitudeOfRank
  positivity

/-- The rank of the binary number nearest to a magnitude, ties to the even significand, beyond
the greatest finite number infinity. -/
def RoundsTo (magnitude : ℚ) (rank : ℕ) : Prop :=
  Nearest magnitudeOfRank (Set.Iic infinityRank) magnitude rank

theorem RoundsTo.mono {first second : ℚ} {rank later : ℕ} (ordered : first ≤ second)
    (earlier : RoundsTo first rank) (after : RoundsTo second later) : rank ≤ later :=
  Nearest.mono magnitudeOfRank_strictMono Set.ordConnected_Iic ordered earlier after

theorem RoundsTo.unique {magnitude : ℚ} {rank other : ℕ}
    (first : RoundsTo magnitude rank) (second : RoundsTo magnitude other) : rank = other :=
  Nearest.unique magnitudeOfRank_strictMono Set.ordConnected_Iic first second

theorem roundsTo_exact {rank : ℕ} (bounded : rank ≤ infinityRank) : RoundsTo (magnitudeOfRank rank) rank :=
  Nearest.exact magnitudeOfRank_strictMono bounded rfl

theorem quotient_binade (quotient : ℕ) :
    let shift := Nat.log2 quotient - 52
    (shift = 0 ∨ 2 ^ 52 ≤ quotient / 2 ^ shift) ∧ quotient / 2 ^ shift < 2 ^ 53 := by
  intro shift
  have high : quotient < 2 ^ (Nat.log2 quotient + 1) := Nat.lt_log2_self
  constructor
  · by_cases first : shift = 0
    · exact Or.inl first
    · right
      have nonzero : quotient ≠ 0 := by
        rintro rfl
        exact first (by simp [shift])
      have low := Nat.log2_self_le nonzero
      rw [Nat.le_div_iff_mul_le (Nat.two_pow_pos _), ← Nat.pow_add]
      have exponent : 52 + shift = Nat.log2 quotient := by omega
      rwa [exponent]
  · rw [Nat.div_lt_iff_lt_mul (Nat.two_pow_pos _), ← Nat.pow_add]
    exact high.trans_le (Nat.pow_le_pow_right (by decide) (by omega))

theorem units_cast_strictMono : StrictMono (fun rank => (unitsOfRank rank : ℚ)) :=
  Nat.strictMono_cast.comp unitsOfRank_strictMono

private theorem infinityRank_even : Even infinityRank := Nat.even_iff.mpr (by decide)

private theorem nearestRank_units (numerator : ℕ) {denominator : ℕ} (positive : 0 < denominator) :
    Nearest (fun rank => (unitsOfRank rank : ℚ)) (Set.Iic infinityRank) (numerator / denominator)
      (nearestRank numerator denominator) := by
  obtain ⟨normal, bounded⟩ := quotient_binade (numerator / denominator)
  rw [nearestRank_eq]
  generalize Nat.log2 (numerator / denominator) - 52 = shift at *
  rw [Nat.div_div_eq_div_mul] at normal bounded
  have stepPositive : 0 < denominator * 2 ^ shift := Nat.mul_pos positive (Nat.two_pow_pos _)
  have low := unitsOfRank_binade shift _ normal bounded.le
  have high := unitsOfRank_binade shift (numerator / (denominator * 2 ^ shift) + 1) (by omega) bounded
  rw [← Nat.add_assoc] at high
  have point : (numerator : ℚ) / denominator = numerator / (denominator * 2 ^ shift : ℕ) * 2 ^ shift := by
    push_cast
    field_simp
  rw [point]
  apply Nearest.cut units_cast_strictMono infinityRank_even
  apply nearest_of_divideEven units_cast_strictMono stepPositive (by positivity) _ _ _ (Set.mem_univ _)
  · exact (Nat.even_pow.mpr (by decide)).mul_left _
  · exact_mod_cast low
  · exact_mod_cast high

theorem nearestRank_roundsTo (numerator : ℕ) {denominator : ℕ} (positive : 0 < denominator) :
    RoundsTo (numerator / denominator / 2 ^ 1074) (nearestRank numerator denominator) :=
  (nearestRank_units numerator positive).scaled (by positivity)

theorem unitsInOne_cast : (unitsInOne : ℚ) = 2 ^ 1074 := by
  rw [unitsInOne_eq]
  generalize 1074 = exponent
  exact Nat.cast_pow 2 exponent

theorem unitsInOne_pos : (0 : ℚ) < unitsInOne := by
  rw [unitsInOne_cast]
  positivity

theorem magnitudeOfRank_def : magnitudeOfRank = fun rank => (unitsOfRank rank : ℚ) / unitsInOne := by
  rw [unitsInOne_cast]
  rfl

theorem magnitudeOfRank_eq (x : Binary64) : magnitudeOfRank x.rank = x.units / unitsInOne := by
  rw [magnitudeOfRank_def]
  rfl

theorem nearestRank_unitsInOne (numerator : ℕ) {denominator : ℕ} (positive : 0 < denominator) :
    RoundsTo (numerator / denominator) (nearestRank (numerator * unitsInOne) denominator) := by
  have rounded := nearestRank_roundsTo (numerator * unitsInOne) positive
  rwa [Nat.cast_mul, unitsInOne_cast, div_right_comm, mul_div_cancel_right₀ _ (by positivity)] at rounded

end TabularQuery.Binary64
