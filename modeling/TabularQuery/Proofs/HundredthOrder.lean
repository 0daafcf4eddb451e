import TabularQuery.Proofs.HundredthStability

/-! Rounding to hundredths beside the order of numbers and their signs. The count of hundredths grows with the number and
the result with the count, so no two numbers change places, wherever rounding stops for whole numbers and at infinity. The
sign takes no part in it. -/

namespace TabularQuery.Binary64

/-- The same magnitude with the other sign. A zero has one too. -/
def negate (x : Binary64) : Binary64 := ⟨!x.negative, x.rank, x.rank_lt⟩

/-- Less or equal. The two zeros are equal, and what is not a number is beside nothing. -/
def AtMost (x y : Binary64) : Prop := x.isNaN = false ∧ y.isNaN = false ∧ y.less x = false

theorem atMost_iff {x y : Binary64} : x.AtMost y ↔ x.isNaN = false ∧ y.isNaN = false ∧ x.key ≤ y.key := by
  constructor
  · rintro ⟨left, right, inside⟩
    simp only [less, left, right, Bool.not_false, Bool.true_and, decide_eq_false_iff_not, not_lt] at inside
    exact ⟨left, right, inside⟩
  · rintro ⟨left, right, ordered⟩
    refine ⟨left, right, ?_⟩
    simpa [less, left, right] using ordered

theorem toNat_toBits (x : Binary64) : x.toBits.toNat = (if x.negative then 2 ^ 63 else 0) + x.rank := by
  have bounded := x.rank_lt
  rw [toBits, UInt64.toNat_ofNat']
  split <;> omega

private theorem xor_highest {word : ℕ} (bounded : word < 2 ^ 64) :
    word ^^^ 2 ^ 63 = if word < 2 ^ 63 then word + 2 ^ 63 else word - 2 ^ 63 := by
  have quotient : (word ^^^ 2 ^ 63) / 2 ^ 63 = word / 2 ^ 63 ^^^ 1 := by
    rw [Nat.xor_div_two_pow, Nat.div_self (Nat.two_pow_pos 63)]
  have remainder : (word ^^^ 2 ^ 63) % 2 ^ 63 = word % 2 ^ 63 := by
    rw [Nat.xor_mod_two_pow, Nat.mod_self, Nat.xor_zero]
  have leading : word / 2 ^ 63 = if word < 2 ^ 63 then 0 else 1 := by
    split <;> omega
  rw [leading] at quotient
  split at quotient
  next low =>
    rw [if_pos low]
    rw [Nat.zero_xor] at quotient
    omega
  next high =>
    rw [if_neg high]
    rw [Nat.xor_self] at quotient
    omega

theorem toBits_negate (x : Binary64) : x.negate.toBits = x.toBits ^^^ 0x8000000000000000 := by
  have sign : (0x8000000000000000 : UInt64).toNat = 2 ^ 63 := rfl
  apply UInt64.toNat_inj.mp
  rw [UInt64.toNat_xor, sign, xor_highest x.toBits.toNat_lt, toNat_toBits, toNat_toBits]
  obtain ⟨negative, rank, bounded⟩ := x
  cases negative with
  | false =>
    simp only [negate, Bool.not_false, if_true, Bool.false_eq_true, if_false]
    rw [if_pos (by omega)]
    omega
  | true =>
    simp only [negate, Bool.not_true, if_true, Bool.false_eq_true, if_false]
    rw [if_neg (by omega)]
    omega

/-! The sign of a number and its rounding. -/

theorem roundHundredths_negate (x : Binary64) : x.negate.roundHundredths = x.roundHundredths.negate := by
  have finite : x.negate.isFinite = x.isFinite := rfl
  have exponent : x.negate.binaryExponent = x.binaryExponent := rfl
  have count : x.negate.hundredths? = x.hundredths? := rfl
  unfold roundHundredths
  rw [finite, exponent, count]
  split
  next => rfl
  next =>
    split
    next => rfl
    next => rfl

theorem roundHundredths_negative (x : Binary64) : x.roundHundredths.negative = x.negative := by
  unfold roundHundredths
  split
  next => rfl
  next =>
    split
    next => rfl
    next => rfl

theorem roundHundredths_zero (negative : Bool) : (zero negative).roundHundredths = zero negative := by
  cases negative <;> decide +kernel

/-! Ranks are kept in their order, up to that of infinity. -/

theorem roundHundredths_infinite {x : Binary64} (infinite : x.isFinite = false) : x.roundHundredths = x := by
  simp [roundHundredths, infinite]

theorem roundHundredths_rank_le {x : Binary64} (number : x.isNaN = false) : x.roundHundredths.rank ≤ infinityRank := by
  by_cases finite : x.isFinite = true
  · obtain ⟨count, -, -, rounded⟩ := x.roundHundredths_count finite
    exact rounded.member
  · rw [roundHundredths_infinite (Bool.eq_false_iff.mpr finite)]
    exact not_lt.mp (of_decide_eq_false number)

theorem roundHundredths_rank_mono {x y : Binary64} (number : y.isNaN = false) (ordered : x.rank ≤ y.rank) :
    x.roundHundredths.rank ≤ y.roundHundredths.rank := by
  have bounded : y.rank ≤ infinityRank := not_lt.mp (of_decide_eq_false number)
  by_cases finite : y.isFinite = true
  · have below : x.isFinite = true := decide_eq_true (ordered.trans_lt (of_decide_eq_true finite))
    obtain ⟨count, nearest, -, rounded⟩ := x.roundHundredths_count below
    obtain ⟨later, after, -, reached⟩ := y.roundHundredths_count finite
    have hundredfold : 100 * magnitudeOfRank x.rank ≤ 100 * magnitudeOfRank y.rank :=
      mul_le_mul_of_nonneg_left (magnitudeOfRank_strictMono.monotone ordered) (by norm_num)
    have counted : count ≤ later := nearest.mono Nat.strictMono_cast Set.ordConnected_univ hundredfold after
    have hundredths : (count : ℚ) / 100 ≤ later / 100 := by gcongr
    exact rounded.mono hundredths reached
  · have infinite : y.rank = infinityRank := bounded.antisymm (not_lt.mp fun less => finite (decide_eq_true less))
    rw [roundHundredths_infinite (Bool.eq_false_iff.mpr finite), infinite]
    exact roundHundredths_rank_le (decide_eq_false (by omega))

theorem roundHundredths_atMost {x y : Binary64} (ordered : x.AtMost y) : x.roundHundredths.AtMost y.roundHundredths := by
  obtain ⟨left, right, keys⟩ := atMost_iff.mp ordered
  have first : x.roundHundredths.isNaN = false := decide_eq_false (not_lt.mpr (roundHundredths_rank_le left))
  have second : y.roundHundredths.isNaN = false := decide_eq_false (not_lt.mpr (roundHundredths_rank_le right))
  refine atMost_iff.mpr ⟨first, second, ?_⟩
  simp only [key, roundHundredths_negative] at keys ⊢
  cases signs : x.negative <;> cases other : y.negative <;> simp only [signs, other, if_true, Bool.false_eq_true, if_false] at keys ⊢
  case false.false =>
    have := roundHundredths_rank_mono right (by omega : x.rank ≤ y.rank)
    omega
  case false.true =>
    have positive : x = zero false := ext_rank signs (by simp only [zero]; omega)
    have negative : y = zero true := ext_rank other (by simp only [zero]; omega)
    rw [positive, negative, roundHundredths_zero, roundHundredths_zero]
    decide
  case true.false => omega
  case true.true =>
    have := roundHundredths_rank_mono left (by omega : y.rank ≤ x.rank)
    omega

/-- Rounding to hundredths a second time changes no bit. A number with the other sign is rounded to the result with the
other sign, and only the bit of the sign is changed by that. Rounding keeps the order of numbers, with infinity among them. -/
theorem roundHundredths_regular (x y : Binary64) :
    x.roundHundredths.roundHundredths.toBits = x.roundHundredths.toBits ∧
    x.negate.toBits = x.toBits ^^^ 0x8000000000000000 ∧
    x.negate.roundHundredths.toBits = x.roundHundredths.toBits ^^^ 0x8000000000000000 ∧
    (x.AtMost y → x.roundHundredths.AtMost y.roundHundredths) := by
  refine ⟨?_, x.toBits_negate, ?_, roundHundredths_atMost⟩
  · rw [roundHundredths_idem]
  · rw [roundHundredths_negate, toBits_negate]

end TabularQuery.Binary64
