import Mathlib.Data.List.TakeWhile
import TabularQuery.Number.Notation
import TabularQuery.Proofs.PlainLiteral
import TabularQuery.Proofs.ShortestDecimal

/-! The text of a result is read back as the same number. The text denotes the shortest
decimal of the number in every notation, and the exponent is rewritten without a change of
its value. -/

namespace TabularQuery

namespace Decimal
open Literal

private theorem magnitude_of_value {whole point fraction scale : List Char} {exponent : ℤ} (d : Decimal)
    (digital : Digits whole) (pointed : Fraction point fraction) (nonempty : whole ++ fraction ≠ [])
    (scaled : Exponent scale exponent)
    (same : (⟨number (whole ++ fraction), exponent - fraction.length⟩ : Decimal).value = d.value) :
    Magnitude (whole ++ point ++ scale) d.value := by
  rw [← same, value_of_digits]
  exact .decimal digital pointed nonempty scaled

theorem positional_pointed (d : Decimal) (fractional : d.exponent < 0) :
    ∃ whole fraction, d.positional = whole ++ '.' :: fraction ∧ Digits whole ∧ whole ≠ [] ∧ Digits fraction ∧
      (fraction.length : ℤ) = -d.exponent ∧ d.value = number whole + number fraction / 10 ^ fraction.length := by
  obtain ⟨coefficient, exponent⟩ := d
  cases exponent with
  | ofNat zeros => exact absurd fractional (by simp)
  | negSucc places =>
    simp only [positional]
    generalize zeros : places + 2 - (Nat.toDigits 10 coefficient).length = count
    have padded := digits_padded count coefficient
    have read := number_padded count coefficient
    have long : places + 2 ≤ (List.replicate count '0' ++ Nat.toDigits 10 coefficient).length := by
      rw [List.length_append, List.length_replicate]
      omega
    generalize List.replicate count '0' ++ Nat.toDigits 10 coefficient = text at *
    have length : ((text.drop (text.length - (places + 1))).length : ℤ) = -Int.negSucc places := by
      rw [List.length_drop, Int.negSucc_eq]
      omega
    refine ⟨_, _, rfl, fun c member => padded c (List.mem_of_mem_take member), ?_,
      fun c member => padded c (List.mem_of_mem_drop member), length, ?_⟩
    · apply List.ne_nil_of_length_pos
      rw [List.length_take]
      omega
    · have value := value_of_digits (text.take (text.length - (places + 1))) (text.drop (text.length - (places + 1))) 0
      rwa [List.take_append_drop, read, length, zero_sub, neg_neg, zpow_zero, mul_one] at value

theorem positional_digits (d : Decimal) (whole : ¬ d.exponent < 0) :
    Digits d.positional ∧ d.positional ≠ [] ∧ d.value = number d.positional := by
  obtain ⟨coefficient, exponent⟩ := d
  cases exponent with
  | negSucc places => exact absurd (Int.negSucc_lt_zero places) whole
  | ofNat zeros =>
    simp only [positional]
    refine ⟨?_, List.append_ne_nil_of_left_ne_nil Nat.toDigits_ne_nil _, ?_⟩
    · intro c member
      rcases List.mem_append.mp member with digit | zero
      · exact digits_toDigits coefficient c digit
      · obtain rfl := List.eq_of_mem_replicate zero
        rfl
    · rw [number, Nat.ofDigitChars_append, Nat.ofDigitChars_replicate_zero, Nat.ofDigitChars_ten_toDigits, value,
        Int.ofNat_eq_natCast, zpow_natCast]
      push_cast
      ring

theorem positional_fraction (d : Decimal) (fractional : d.exponent < 0) : Magnitude d.positional d.value := by
  obtain ⟨whole, fraction, text, digital, nonempty, fractionDigital, -, value⟩ := d.positional_pointed fractional
  have written := Magnitude.decimal digital (.present fractionDigital) (List.append_ne_nil_of_left_ne_nil nonempty _) .absent
  rwa [List.append_nil, zpow_zero, mul_one, ← text, ← value] at written

theorem positional_whole (d : Decimal) (whole : ¬ d.exponent < 0) :
    Magnitude (d.positional ++ ['.', '0']) d.value := by
  obtain ⟨digital, nonempty, value⟩ := d.positional_digits whole
  have zero : number ['0'] = 0 := rfl
  have written := Magnitude.decimal digital (.present (digits_toDigits 0)) (List.append_ne_nil_of_left_ne_nil nonempty _) .absent
  rwa [List.append_nil, zpow_zero, mul_one, Nat.toDigits_zero, zero, Nat.cast_zero, zero_div, add_zero, ← value] at written

theorem positional_plain (d : Decimal) : ∀ c ∈ d.positional, c.isDigit = true ∨ c = '.' := by
  intro c member
  have digital := digits_toDigits d.coefficient
  simp only [positional] at member
  split at member
  next zeros _ =>
    rcases List.mem_append.mp member with digit | zero
    · exact Or.inl (digital c digit)
    · obtain rfl := List.eq_of_mem_replicate zero
      exact Or.inl rfl
  next places _ =>
    have padded := digits_padded (places + 2 - (Nat.toDigits 10 d.coefficient).length) d.coefficient
    rcases List.mem_append.mp member with whole | rest
    · exact Or.inl (padded c (List.mem_of_mem_take whole))
    · rcases List.mem_cons.mp rest with point | fraction
      · exact Or.inr point
      · exact Or.inl (padded c (List.mem_of_mem_drop fraction))

theorem scientific_mantissa (d : Decimal) {scale : List Char} (scaled : Exponent scale d.leadingExponent) :
    Magnitude ((Nat.toDigits 10 d.coefficient).take 1 ++ (if (Nat.toDigits 10 d.coefficient).length = 1 then [] else
      '.' :: (Nat.toDigits 10 d.coefficient).drop 1) ++ scale) d.value := by
  have digital := digits_toDigits d.coefficient
  have read := number_toDigits d.coefficient
  have nonempty : Nat.toDigits 10 d.coefficient ≠ [] := Nat.toDigits_ne_nil
  rw [leadingExponent] at scaled
  generalize Nat.toDigits 10 d.coefficient = digits at *
  have pointed : Fraction (if digits.length = 1 then [] else '.' :: digits.drop 1) (digits.drop 1) := by
    split
    next single =>
      rw [List.drop_of_length_le single.le]
      exact .absent
    next => exact .present fun c member => digital c (List.mem_of_mem_drop member)
  have length : (digits.drop 1).length + 1 = digits.length := by
    rw [List.length_drop]
    exact Nat.sub_add_cancel (List.length_pos_of_ne_nil nonempty)
  have same : (⟨number (digits.take 1 ++ digits.drop 1), d.exponent + (digits.length - 1 : ℤ) - (digits.drop 1).length⟩ :
      Decimal) = d := by
    rw [List.take_append_drop, read, ← length]
    obtain ⟨coefficient, exponent⟩ := d
    congr
    push_cast
    ring
  exact magnitude_of_value d (fun c member => digital c (List.mem_of_mem_take member)) pointed
    (by rwa [List.take_append_drop]) scaled (congrArg value same)

end Decimal

namespace Binary64
open Literal

theorem unmarked_bne {text : List Char} (plain : 'e' ∉ text) : ∀ c ∈ text, (c != 'e') = true :=
  fun _ member => bne_iff_ne.mpr fun same => plain (same ▸ member)

theorem widenExponent_plain {text : List Char} (plain : 'e' ∉ text) : widenExponent text = text := by
  rw [widenExponent, List.dropWhile_eq_nil_iff.mpr (unmarked_bne plain)]

private theorem widenExponent_append {text : List Char} (plain : 'e' ∉ text) (exponent : List Char) :
    widenExponent (text ++ 'e' :: exponent) = text ++ 'e' :: (splitExponent exponent).1 ::
      (List.replicate (2 - (splitExponent exponent).2.length) '0' ++ (splitExponent exponent).2) := by
  have taken : (text ++ 'e' :: exponent).takeWhile (· != 'e') = text := by
    rw [List.takeWhile_append_of_pos (unmarked_bne plain)]
    simp
  have dropped : (text ++ 'e' :: exponent).dropWhile (· != 'e') = 'e' :: exponent := by
    rw [List.dropWhile_append_of_pos (unmarked_bne plain)]
    simp
  rw [widenExponent, dropped, taken]

private theorem splitExponent_toDigits (n : ℕ) : splitExponent (Nat.toDigits 10 n) = ('+', Nat.toDigits 10 n) := by
  unfold splitExponent
  split
  next digits same =>
    have digit := digits_toDigits n '-' (by simp [same])
    cases digit
  next => rfl

private theorem exponent_signed (zeros : ℕ) (exponent : ℤ) :
    Exponent ('e' :: (if exponent < 0 then '-' else '+') :: (List.replicate zeros '0' ++ Nat.toDigits 10 exponent.natAbs))
      exponent := by
  have digital := digits_padded zeros exponent.natAbs
  have read := number_padded zeros exponent.natAbs
  have nonempty : List.replicate zeros '0' ++ Nat.toDigits 10 exponent.natAbs ≠ [] :=
    List.append_ne_nil_of_right_ne_nil _ Nat.toDigits_ne_nil
  generalize List.replicate zeros '0' ++ Nat.toDigits 10 exponent.natAbs = digits at *
  split
  next negative =>
    have written := Exponent.present (Or.inl (Eq.refl 'e')) .minus digital nonempty
    have same : -(exponent.natAbs : ℤ) = exponent := by omega
    rwa [if_pos rfl, read, same] at written
  next nonnegative =>
    have written := Exponent.present (Or.inl (Eq.refl 'e')) .plus digital nonempty
    have same : (exponent.natAbs : ℤ) = exponent := by omega
    rwa [if_neg Bool.false_ne_true, read, same] at written

theorem widenExponent_marked {text : List Char} (plain : 'e' ∉ text) (exponent : ℤ) :
    widenExponent (text ++ 'e' :: (if exponent < 0 then '-' :: Nat.toDigits 10 exponent.natAbs else
      Nat.toDigits 10 exponent.natAbs)) =
    text ++ 'e' :: (if exponent < 0 then '-' else '+') ::
      (List.replicate (2 - (Nat.toDigits 10 exponent.natAbs).length) '0' ++ Nat.toDigits 10 exponent.natAbs) := by
  rw [widenExponent_append plain]
  split
  next => rfl
  next => rw [splitExponent_toDigits]

theorem signed_eq (x : Binary64) (text : List Char) :
    x.signed text = (if x.negative then ['-'] else []) ++ text := by
  rw [signed]
  split <;> rfl

private theorem sign (negative : Bool) : Sign (if negative then ['-'] else []) negative := by
  cases negative
  · exact .absent
  · exact .minus

theorem mantissa_plain {digits : List Char} (digital : Digits digits) :
    ∀ c ∈ digits.take 1 ++ (if digits.length = 1 then [] else '.' :: digits.drop 1), c.isDigit = true ∨ c = '.' := by
  intro c member
  rcases List.mem_append.mp member with first | rest
  · exact Or.inl (digital c (List.mem_of_mem_take first))
  · split at rest
    · cases rest
    · rcases List.mem_cons.mp rest with point | fraction
      · exact Or.inr point
      · exact Or.inl (digital c (List.mem_of_mem_drop fraction))

theorem no_mark {text : List Char} (plain : ∀ c ∈ text, c.isDigit = true ∨ c = '.') : 'e' ∉ text := by
  intro member
  rcases plain 'e' member with digit | point
  · cases digit
  · cases point

theorem pointed_unmarked {whole fraction : List Char} (digital : Digits whole) (fractional : Digits fraction) :
    'e' ∉ whole ++ '.' :: fraction := by
  apply no_mark
  intro c member
  rcases List.mem_append.mp member with inside | rest
  · exact Or.inl (digital c inside)
  · rcases List.mem_cons.mp rest with point | after
    · exact Or.inr point
    · exact Or.inl (fractional c after)

theorem positional_unmarked (d : Decimal) : 'e' ∉ d.positional ∧ 'e' ∉ d.positional ++ ['.', '0'] := by
  have plain := no_mark d.positional_plain
  refine ⟨plain, ?_⟩
  intro member
  rcases List.mem_append.mp member with inside | last
  · exact plain inside
  · exact absurd last (by decide)

private theorem compact_magnitude (d : Decimal) : Magnitude (widenExponent d.compact) d.value := by
  obtain ⟨plain, pointed⟩ := positional_unmarked d
  rw [Decimal.compact]
  split
  next inside =>
    split
    next fractional =>
      rw [widenExponent_plain plain]
      exact d.positional_fraction fractional
    next whole =>
      rw [widenExponent_plain pointed]
      exact d.positional_whole whole
  next outside =>
    rw [Decimal.scientific, widenExponent_marked (no_mark (mantissa_plain (digits_toDigits d.coefficient)))]
    exact d.scientific_mantissa (exponent_signed _ d.leadingExponent)

theorem widenExponent_signed (x : Binary64) (text : List Char) :
    widenExponent (x.signed text) = (if x.negative then ['-'] else []) ++ widenExponent text := by
  have unmarked : 'e' ∉ if x.negative then ['-'] else [] := by
    split <;> decide
  rw [signed_eq, widenExponent, widenExponent, List.dropWhile_append_of_pos (unmarked_bne unmarked),
    List.takeWhile_append_of_pos (unmarked_bne unmarked)]
  split
  · rfl
  · exact List.append_assoc _ _ _

theorem display_finite {x : Binary64} (finite : x.rank < infinityRank) :
    x.display = String.ofList (widenExponent x.compact) := by
  have number : x.isNaN = false := decide_eq_false (by omega)
  have bounded : x.isInfinite = false := decide_eq_false (by omega)
  rw [display, number, bounded, if_neg Bool.false_ne_true, if_neg Bool.false_ne_true]

theorem compact_denotes (x : Binary64) (positive : 0 < x.rank) :
    Denotes (widenExponent x.compact) x.negative x.shortest.value := by
  rw [compact, if_neg positive.ne', widenExponent_signed]
  exact .signed (sign x.negative) (compact_magnitude x.shortest)

end Binary64
end TabularQuery
