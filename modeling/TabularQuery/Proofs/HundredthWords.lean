import Mathlib.Algebra.Order.Ring.Nat
import TabularQuery.Number.Cents
import TabularQuery.Proofs.BinaryRounding

/-! The words of rounding to hundredths, as whole numbers. Every checked operation stays in its word, so shifting the
hundredfold significand is division by a power of two, ties to even. -/

namespace TabularQuery.Binary64

theorem magnitudeBits_toNat (x : Binary64) : x.magnitudeBits.toNat = x.rank := by
  have bounded := x.rank_lt
  rw [magnitudeBits, UInt64.toNat_ofNat']
  omega

theorem storedExponent_eq (x : Binary64) : x.storedExponent = x.rank / 2 ^ 52 := by
  have bounded := x.rank_lt
  have mask : (0x7ff : UInt64).toNat = 2 ^ 11 - 1 := by decide
  have amount : (52 : UInt64).toNat % 64 = 52 := by decide
  rw [storedExponent, UInt64.toNat_and, UInt64.toNat_shiftRight, magnitudeBits_toNat, mask, amount,
    Nat.and_two_pow_sub_one_eq_mod, Nat.shiftRight_eq_div_pow]
  omega

theorem storedFraction_toNat (x : Binary64) : x.storedFraction.toNat = x.rank % 2 ^ 52 := by
  have mask : (leadingBit - 1).toNat = 2 ^ 52 - 1 := by decide
  rw [storedFraction, UInt64.toNat_and, magnitudeBits_toNat, mask, Nat.and_two_pow_sub_one_eq_mod]

theorem significand_units (x : Binary64) : x.significand.toNat * 2 ^ (x.storedExponent - 1) = x.units := by
  have leading : leadingBit.toNat = 2 ^ 52 * 1 := by decide
  have small : x.rank % 2 ^ 52 < 2 ^ 52 := Nat.mod_lt _ (Nat.two_pow_pos _)
  rw [significand, storedExponent_eq, units, unitsOfRank_eq]
  split
  next subnormal =>
    rw [storedFraction_toNat, if_pos (by omega), subnormal, Nat.mod_eq_of_lt (by omega)]
    simp
  next normal =>
    rw [UInt64.toNat_or, storedFraction_toNat, leading, Nat.or_comm, ← Nat.two_pow_add_eq_or_of_lt small,
      if_neg (by omega), Nat.mul_one]

theorem significand_lt (x : Binary64) : x.significand.toNat < 2 ^ 53 := by
  have leading : leadingBit.toNat < 2 ^ 53 := by decide
  have small : x.rank % 2 ^ 52 < 2 ^ 52 := Nat.mod_lt _ (Nat.two_pow_pos _)
  rw [significand]
  split
  · rw [storedFraction_toNat]; omega
  · rw [UInt64.toNat_or, storedFraction_toNat]
    exact Nat.or_lt_two_pow (by omega) leading

theorem checked_inside {overflow : Bool} (inside : overflow = false) (result : BitVec 128) :
    checked overflow result = some result := by
  rw [checked, inside, if_neg Bool.false_ne_true]

theorem hundredfold?_exact (x : Binary64) : ∃ word, x.hundredfold? = some word ∧ word.toNat = x.significand.toNat * 100 := by
  have bounded := x.significand_lt
  have factor : (100 : BitVec 128).toNat = 100 := rfl
  have widened : (x.significand.toBitVec.setWidth 128).toNat = x.significand.toNat := by
    rw [BitVec.toNat_setWidth]
    exact Nat.mod_eq_of_lt (by omega)
  have inside : (x.significand.toBitVec.setWidth 128).umulOverflow 100 = false := by
    rw [BitVec.umulOverflow, widened, factor, decide_eq_false_iff_not]
    omega
  refine ⟨_, checked_inside inside _, ?_⟩
  rw [BitVec.toNat_mul, widened, factor]
  exact Nat.mod_eq_of_lt (by omega)

section
variable {word : BitVec 128} {shift : ℕ}

private theorem quotient_toNat : (word >>> shift).toNat = word.toNat / 2 ^ shift := by
  rw [BitVec.toNat_ushiftRight, Nat.shiftRight_eq_div_pow]

private theorem bit_toNat (inside : shift < 128) : ((1 : BitVec 128) <<< shift).toNat = 2 ^ shift := by
  have bounded : 2 ^ shift < 2 ^ 128 := Nat.pow_lt_pow_right (by decide) inside
  have one : (1 : BitVec 128).toNat = 1 := rfl
  rw [BitVec.toNat_shiftLeft, Nat.shiftLeft_eq, one, Nat.one_mul, Nat.mod_eq_of_lt bounded]

private theorem mask_inside (inside : shift < 128) : ((1 : BitVec 128) <<< shift).usubOverflow 1 = false := by
  have one : (1 : BitVec 128).toNat = 1 := rfl
  rw [BitVec.usubOverflow, bit_toNat inside, one, decide_eq_false_iff_not, Nat.not_lt]
  exact Nat.two_pow_pos shift

private theorem remainder_toNat (inside : shift < 128) :
    (word &&& (((1 : BitVec 128) <<< shift) - 1)).toNat = word.toNat % 2 ^ shift := by
  have positive : 0 < 2 ^ shift := Nat.two_pow_pos shift
  have one : (1 : BitVec 128).toNat = 1 := rfl
  have mask : (((1 : BitVec 128) <<< shift) - 1).toNat = 2 ^ shift - 1 := by
    rw [BitVec.toNat_sub_of_le (by rw [BitVec.le_def, bit_toNat inside, one]; exact positive), bit_toNat inside, one]
  rw [BitVec.toNat_and, mask, Nat.and_two_pow_sub_one_eq_mod]

private theorem quotient_lt (word : BitVec 128) (moved : 0 < shift) : (word >>> shift).toNat < 2 ^ 127 := by
  rw [quotient_toNat, Nat.div_lt_iff_lt_mul (Nat.two_pow_pos _), ← Nat.pow_add]
  exact word.isLt.trans_le (Nat.pow_le_pow_right (by decide) (by omega))

private theorem carry_inside (moved : 0 < shift) : (word >>> shift).uaddOverflow 1 = false := by
  have bounded := quotient_lt word moved
  have one : (1 : BitVec 128).toNat = 1 := rfl
  rw [BitVec.uaddOverflow, one, decide_eq_false_iff_not]
  omega

private theorem carry_toNat (moved : 0 < shift) : (word >>> shift + 1).toNat = word.toNat / 2 ^ shift + 1 := by
  have bounded := quotient_lt word moved
  have one : (1 : BitVec 128).toNat = 1 := rfl
  rw [BitVec.toNat_add, one, Nat.mod_eq_of_lt (by omega), quotient_toNat]

theorem shiftEven?_inside (moved : 0 < shift) (inside : shift < 128) : shiftEven? word shift =
    if (1 : BitVec 128) <<< (shift - 1) < word &&& ((1 : BitVec 128) <<< shift - 1) ∨
        (word &&& ((1 : BitVec 128) <<< shift - 1) = (1 : BitVec 128) <<< (shift - 1) ∧ word >>> shift &&& 1 = 1) then
      some (word >>> shift + 1)
    else some (word >>> shift) := by
  have amount : decide (128 ≤ shift) = false := decide_eq_false (by omega)
  have half : (decide (shift = 0) || decide (128 ≤ shift - 1)) = false := by
    rw [decide_eq_false (by omega), decide_eq_false (by omega)]
    rfl
  simp only [shiftEven?, checked_inside amount, checked_inside half, Option.bind_eq_bind, Option.bind_some,
    checked_inside (mask_inside inside), checked_inside (carry_inside moved)]

theorem shiftEven?_exact (word : BitVec 128) (moved : 0 < shift) (inside : shift < 128) :
    ∃ count, shiftEven? word shift = some count ∧ count.toNat = divideEven word.toNat (2 ^ shift) := by
  have half : ((1 : BitVec 128) <<< (shift - 1)).toNat = 2 ^ (shift - 1) := bit_toNat (by omega)
  have double : 2 * 2 ^ (shift - 1) = 2 ^ shift := by
    rw [← Nat.pow_succ']
    exact congrArg (2 ^ ·) (Nat.sub_add_cancel moved)
  have odd : (word >>> shift &&& 1 = 1) ↔ word.toNat / 2 ^ shift % 2 = 1 := by
    have one : (1 : BitVec 128).toNat = 2 ^ 1 - 1 := rfl
    rw [← BitVec.toNat_inj, BitVec.toNat_and, quotient_toNat, one, Nat.and_two_pow_sub_one_eq_mod]
    exact Iff.rfl
  have middle : (word &&& (((1 : BitVec 128) <<< shift) - 1) = (1 : BitVec 128) <<< (shift - 1)) ↔
      2 * (word.toNat % 2 ^ shift) = 2 ^ shift := by
    rw [← BitVec.toNat_inj, remainder_toNat inside, half]
    omega
  have above : ((1 : BitVec 128) <<< (shift - 1) < word &&& (((1 : BitVec 128) <<< shift) - 1)) ↔
      2 ^ shift < 2 * (word.toNat % 2 ^ shift) := by
    rw [BitVec.lt_def, remainder_toNat inside, half]
    omega
  rw [shiftEven?_inside moved inside]
  simp only [divideEven, odd, middle, above]
  split
  next up =>
    refine ⟨_, rfl, ?_⟩
    rw [carry_toNat moved]
    rcases up with far | ⟨tie, odd⟩
    · rw [if_neg (by omega), if_pos far]
    · rw [if_neg (by omega), if_neg (by omega), odd]
  next down =>
    refine ⟨_, rfl, ?_⟩
    rw [quotient_toNat]
    split
    next => rfl
    next =>
      rw [if_neg (by omega)]
      omega

end

/-- Beyond the width of the word less than half a hundredth is left. -/
theorem hundredths?_exact (x : Binary64) (moved : 0 < x.shift) : ∃ count, x.hundredths? = some count ∧
    count.toNat = divideEven (x.significand.toNat * 100) (2 ^ x.shift) := by
  obtain ⟨word, product, exact⟩ := x.hundredfold?_exact
  rw [hundredths?, product, Option.bind_some, ← exact]
  split
  next beyond =>
    have bounded := x.significand_lt
    have large : 2 ^ 128 ≤ 2 ^ x.shift := Nat.pow_le_pow_right (by decide) beyond
    have less : word.toNat < 2 ^ x.shift := by omega
    refine ⟨0, rfl, ?_⟩
    rw [divideEven, Nat.div_eq_of_lt less, Nat.mod_eq_of_lt less, if_pos (by omega)]
    rfl
  next inside => exact shiftEven?_exact word moved (by omega)

theorem binaryExponent_eq (x : Binary64) : x.binaryExponent = (x.storedExponent - 1 : ℕ) - 1074 := by
  rw [binaryExponent]
  split <;> omega

theorem units_shift (x : Binary64) (fractional : x.binaryExponent < 0) :
    x.units * 2 ^ x.shift = x.significand.toNat * unitsInOne := by
  have exponent : x.storedExponent - 1 + x.shift = 1074 := by
    rw [shift]
    have := x.binaryExponent_eq
    omega
  rw [← significand_units, unitsInOne_eq, ← exponent, Nat.pow_add, Nat.mul_assoc]

theorem units_whole (x : Binary64) (whole : 0 ≤ x.binaryExponent) :
    x.units = x.significand.toNat * 2 ^ x.binaryExponent.toNat * unitsInOne := by
  have exponent : x.storedExponent - 1 = x.binaryExponent.toNat + 1074 := by
    have := x.binaryExponent_eq
    omega
  rw [← significand_units, unitsInOne_eq]
  generalize 1074 = places at *
  rw [exponent, Nat.pow_add, Nat.mul_assoc]

end TabularQuery.Binary64
