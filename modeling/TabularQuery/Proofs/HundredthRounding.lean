import Mathlib.Tactic.LinearCombination
import TabularQuery.Proofs.HundredthWords
import TabularQuery.Proofs.PlainLiteral

/-! Rounding to hundredths is exact: the count of hundredths is the whole number nearest to
the hundredfold magnitude, and the result is the binary number nearest to that many
hundredths. -/

namespace TabularQuery.Binary64
open Literal

/-- The text of a count of hundredths denotes their quotient, and so is always read back. -/
theorem hundredthsText_denotes (count : ℕ) : Denotes (hundredthsText count) false (count / 100) := by
  have few : (Nat.toDigits 10 (count % 100)).length ≤ 2 :=
    (Nat.length_toDigits_le_iff (by decide) (by decide)).mpr (Nat.mod_lt _ (by decide))
  have places : (List.replicate (2 - (Nat.toDigits 10 (count % 100)).length) '0' ++
      Nat.toDigits 10 (count % 100)).length = 2 := by
    rw [List.length_append, List.length_replicate]
    omega
  simp only [hundredthsText]
  generalize 2 - (Nat.toDigits 10 (count % 100)).length = zeros at places ⊢
  have written := Magnitude.decimal (digits_toDigits (count / 100)) (.present (digits_padded zeros (count % 100)))
    (List.append_ne_nil_of_left_ne_nil Nat.toDigits_ne_nil _) .absent
  have value : ((count / 100 : ℕ) : ℚ) + (count % 100 : ℕ) / 10 ^ 2 = count / 100 := by
    have whole : (100 : ℚ) * (count / 100 : ℕ) + (count % 100 : ℕ) = count := by exact_mod_cast Nat.div_add_mod count 100
    linarith
  rw [number_toDigits, number_padded, zpow_zero, mul_one, places, value, List.append_nil] at written
  exact (Denotes.signed .absent written :)

theorem hundredfold_fraction (x : Binary64) (fractional : x.binaryExponent < 0) :
    100 * magnitudeOfRank x.rank = (x.significand.toNat * 100 : ℕ) / (2 ^ x.shift : ℕ) := by
  have units : (x.units : ℚ) * 2 ^ x.shift = x.significand.toNat * unitsInOne := by
    exact_mod_cast x.units_shift fractional
  rw [magnitudeOfRank_eq, ← mul_div_assoc, div_eq_div_iff unitsInOne_pos.ne' (by positivity)]
  push_cast
  linear_combination 100 * units

theorem hundredfold_whole (x : Binary64) (whole : 0 ≤ x.binaryExponent) :
    100 * magnitudeOfRank x.rank = (100 * (x.significand.toNat * 2 ^ x.binaryExponent.toNat) : ℕ) := by
  rw [magnitudeOfRank_eq, x.units_whole whole, Nat.cast_mul _ unitsInOne, mul_div_cancel_right₀ _ unitsInOne_pos.ne']
  push_cast
  ring

/-- While a number with a fraction is rounded no product or sum overflows, no word is shifted by its width or more, and what
is written is read back. -/
structure WordsExact (x : Binary64) : Prop where
  product : ∃ word, x.hundredfold? = some word ∧ word.toNat = x.significand.toNat * 100
  counted : ∃ count, x.hundredths? = some count ∧ (ofPlain? (hundredthsText count.toNat)).isSome

theorem shift_pos (x : Binary64) (fractional : x.binaryExponent < 0) : 0 < x.shift := by
  rw [shift]
  omega

theorem hundredths?_nearest (x : Binary64) (fractional : x.binaryExponent < 0) : ∃ count, x.hundredths? = some count ∧
    Nearest (fun n : ℕ => (n : ℚ)) Set.univ (100 * magnitudeOfRank x.rank) count.toNat := by
  obtain ⟨count, counted, exact⟩ := x.hundredths?_exact (x.shift_pos fractional)
  refine ⟨count, counted, ?_⟩
  rw [hundredfold_fraction x fractional, exact]
  exact divideEven_nearest _ (Nat.two_pow_pos _)

theorem wordsExact (x : Binary64) (fractional : x.binaryExponent < 0) : WordsExact x where
  product := x.hundredfold?_exact
  counted := by
    obtain ⟨count, counted, -⟩ := x.hundredths?_exact (x.shift_pos fractional)
    obtain ⟨y, read, -⟩ := ofPlain?_of_denotes (hundredthsText_denotes count.toNat)
    exact ⟨count, counted, by rw [read]; rfl⟩

theorem roundHundredths_counted {x : Binary64} (finite : x.isFinite = true) (fractional : x.binaryExponent < 0)
    {count : BitVec 128} (counted : x.hundredths? = some count) :
    x.roundHundredths.negative = x.negative ∧ RoundsTo (count.toNat / 100) x.roundHundredths.rank := by
  obtain ⟨y, read, -, rounded⟩ := ofPlain?_of_denotes (hundredthsText_denotes count.toNat)
  have result : x.roundHundredths = ⟨x.negative, y.rank, y.rank_lt⟩ := by
    simp [roundHundredths, finite, fractional, counted, read]
  rw [result]
  exact ⟨rfl, rounded⟩

theorem roundHundredths_count (x : Binary64) (finite : x.isFinite = true) : ∃ count : ℕ,
    Nearest (fun n : ℕ => (n : ℚ)) Set.univ (100 * magnitudeOfRank x.rank) count ∧
      x.roundHundredths.negative = x.negative ∧ RoundsTo (count / 100) x.roundHundredths.rank := by
  rcases lt_or_ge x.binaryExponent 0 with fractional | whole
  · obtain ⟨count, counted, nearest⟩ := x.hundredths?_nearest fractional
    exact ⟨_, nearest, roundHundredths_counted finite fractional counted⟩
  · have point := x.hundredfold_whole whole
    have same : x.roundHundredths = x := by simp [roundHundredths, finite, whole]
    have bounded : x.rank ≤ infinityRank := (of_decide_eq_true finite).le
    refine ⟨_, .exact Nat.strictMono_cast trivial point.symm, ?_⟩
    rw [same, ← point, mul_div_cancel_left₀ _ (by norm_num)]
    exact ⟨rfl, roundsTo_exact bounded⟩

/-- What is not finite is left alone. A finite number becomes the number nearest to the count of hundredths that is
nearest to it, with its own sign, and every operation on the words of the calculation stays in them. -/
theorem roundHundredths_nearest (x : Binary64) :
    (x.isFinite = false → x.roundHundredths = x) ∧
    (x.isFinite = true → ∃ count : ℕ,
      Nearest (fun n : ℤ => (n : ℚ)) Set.univ (100 * magnitudeOfRank x.rank) (count : ℤ) ∧
      x.roundHundredths.negative = x.negative ∧ RoundsTo (count / 100) x.roundHundredths.rank) ∧
    (x.isFinite = true → x.binaryExponent < 0 → WordsExact x) := by
  refine ⟨fun infinite => by simp [roundHundredths, infinite], fun finite => ?_, fun _ => x.wordsExact⟩
  have nonnegative : 0 ≤ 100 * magnitudeOfRank x.rank := by
    unfold magnitudeOfRank
    positivity
  obtain ⟨count, nearest, rounded⟩ := x.roundHundredths_count finite
  exact ⟨count, nearest.toInt nonnegative, rounded⟩

end TabularQuery.Binary64
