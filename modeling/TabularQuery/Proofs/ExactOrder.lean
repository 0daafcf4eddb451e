import TabularQuery.Proofs.ColumnExtremes

/-! Comparing decimals by the numbers they are read as. Reading rounds, and rounding keeps the order of exact values, so a
comparison of two numbers is never against the order of the decimals. It is silent where both are read as one number. -/

namespace TabularQuery

namespace Binary64

/-- The number nearest to a point, with a sign that is not against the side of zero on which the point lies. -/
structure Approximates (point : ℚ) (x : Binary64) : Prop where
  nearest : RoundsTo |point| x.rank
  side : if x.negative then point ≤ 0 else 0 ≤ point

variable {x y : Binary64} {point later : ℚ}

theorem Approximates.isNaN (approximates : Approximates point x) : x.isNaN = false :=
  decide_eq_false (not_lt.mpr approximates.nearest.member)

theorem approximates_signed {magnitude : ℚ} (nonnegative : 0 ≤ magnitude) (rounded : RoundsTo magnitude x.rank) :
    Approximates (if x.negative then -magnitude else magnitude) x := by
  cases sign : x.negative with
  | true =>
    refine ⟨?_, ?_⟩
    · rwa [if_pos rfl, abs_neg, abs_of_nonneg nonnegative]
    · rw [sign, if_pos rfl, if_pos rfl]
      exact neg_nonpos.mpr nonnegative
  | false =>
    refine ⟨?_, ?_⟩
    · rwa [if_neg Bool.false_ne_true, abs_of_nonneg nonnegative]
    · rwa [sign, if_neg Bool.false_ne_true, if_neg Bool.false_ne_true]

/-- The order of points is kept by the keys, in which the two zeros are one. -/
theorem Approximates.key_le (first : Approximates point x) (ordered : point ≤ later) (second : Approximates later y) :
    x.key ≤ y.key := by
  obtain ⟨nearest, side⟩ := first
  obtain ⟨after, beyond⟩ := second
  unfold key
  cases left : x.negative <;> cases right : y.negative <;>
    simp only [left, right, if_true, Bool.false_eq_true, if_false] at side beyond ⊢
  case false.false =>
    rw [abs_of_nonneg side] at nearest
    rw [abs_of_nonneg beyond] at after
    have ranks : x.rank ≤ y.rank := nearest.mono ordered after
    omega
  case false.true =>
    have zero : ∀ {rank}, RoundsTo |(0 : ℚ)| rank → rank = 0 := by
      intro rank rounded
      rw [abs_zero] at rounded
      exact rounded.unique (roundsTo_zero le_rfl (by positivity))
    obtain rfl : point = 0 := le_antisymm (ordered.trans beyond) side
    obtain rfl : later = 0 := le_antisymm beyond ordered
    rw [zero nearest, zero after]
    rfl
  case true.false => omega
  case true.true =>
    rw [abs_of_nonpos side] at nearest
    rw [abs_of_nonpos beyond] at after
    have ranks : y.rank ≤ x.rank := after.mono (neg_le_neg ordered) nearest
    omega

theorem Approximates.less_iff (first : Approximates point x) (second : Approximates later y) :
    x.less y = true ↔ point < later ∧ x.key ≠ y.key := by
  rw [Binary64.less_iff]
  constructor
  · rintro ⟨-, -, keys⟩
    refine ⟨?_, keys.ne⟩
    by_contra! reversed
    exact absurd (second.key_le reversed first) (not_le.mpr keys)
  · rintro ⟨points, different⟩
    exact ⟨first.isNaN, second.isNaN, lt_of_le_of_ne (first.key_le points.le second) different⟩

end Binary64

namespace Literal
open Binary64

/-- The field is read as a number, and what is inside its white space is not a word. -/
def DecimalField (raw : String) : Prop :=
  (parse? raw).isSome = true ∧ ∀ inner, Text.Stripped raw.toList inner → inner ∉ sign * word

/-- The value of the digits, point and exponent inside the white space, without any rounding. -/
def Exact (raw : String) (value : ℚ) : Prop :=
  ∃ inner negative magnitude, Text.Stripped raw.toList inner ∧ Denotes (plain inner) negative magnitude ∧
    value = if negative then -magnitude else magnitude

theorem Denotes.nonneg {text : List Char} {negative : Bool} {magnitude : ℚ} (denotes : Denotes text negative magnitude) :
    0 ≤ magnitude := by
  obtain ⟨-, -, d, -, -, -, -, -, rfl⟩ := denotes.split
  exact d.value_nonneg

theorem word_digitless {text : List Char} (member : text ∈ sign * word) : ∀ c ∈ text, c.isDigit = false := by
  obtain ⟨written, body, negative, signed, rfl, known, listed, spelled⟩ := mem_sign_mul_word.mp member
  intro c present
  rcases List.mem_append.mp present with first | rest
  · cases signed with
    | absent => cases first
    | plus | minus =>
      rw [List.mem_singleton.mp first]
      rfl
  · exact (spelled.letters listed c rest).1

theorem DecimalField.exact {raw : String} (decimal : DecimalField raw) :
    ∃ x value, parse? raw = some x ∧ (∀ other, Exact raw other ↔ other = value) ∧ Approximates value x := by
  obtain ⟨accepted, wordless⟩ := decimal
  obtain ⟨x, read⟩ := Option.isSome_iff_exists.mp accepted
  obtain ⟨negative, magnitude, denotes⟩ : ∃ negative magnitude, Denotes (plain (Text.trim raw.toList)) negative magnitude := by
    have grammatical := (parse?_eq_some.mp read).grammatical
    rw [literal, mul_add] at grammatical
    rcases grammatical with spelled | separated
    · exact absurd spelled (wordless _ (Text.stripped_trim _))
    · exact (mem_sign_mul_decimal.mp separated).2
  obtain ⟨rfl, rounded⟩ := parse?_of_denotes read denotes
  refine ⟨x, _, read, ?_, approximates_signed denotes.nonneg rounded⟩
  intro other
  constructor
  · rintro ⟨inner, sign, second, stripped, again, rfl⟩
    obtain rfl := stripped.eq_trim
    obtain ⟨rfl, rfl⟩ := again.unique denotes
    rfl
  · rintro rfl
    exact ⟨_, _, _, Text.stripped_trim _, denotes, rfl⟩

end Literal

namespace Comparison
open Literal Binary64

/-- One decimal is found less or greater than another only if it is, and then unless both are read as one number. Decimals
of one value are read as one number, whatever their spelling. -/
theorem holds_exact_order {field value : String} (first : DecimalField field) (second : DecimalField value) :
    ∃ x y q r, parse? field = some x ∧ parse? value = some y ∧
      (∀ p, Exact field p ↔ p = q) ∧ (∀ p, Exact value p ↔ p = r) ∧ Approximates q x ∧ Approximates r y ∧
      (less.holds field value = true ↔ q < r ∧ x.key ≠ y.key) ∧
      (greater.holds field value = true ↔ r < q ∧ x.key ≠ y.key) ∧
      (q = r → less.holds field value = false ∧ greater.holds field value = false) := by
  obtain ⟨x, q, read, exactly, nearest⟩ := first.exact
  obtain ⟨y, r, bound, bounded, beside⟩ := second.exact
  have below : less.holds field value = x.less y := by
    rw [holds, bound, Extreme.least.holdsFor read]
  have above : greater.holds field value = y.less x := by
    rw [holds, bound, Extreme.greatest.holdsFor read]
  refine ⟨x, y, q, r, read, bound, exactly, bounded, nearest, beside, ?_, ?_, ?_⟩
  · rw [below]
    exact nearest.less_iff beside
  · rw [above, ne_comm]
    exact beside.less_iff nearest
  · rintro rfl
    rw [below, above]
    constructor
    · exact Bool.eq_false_iff.mpr fun less => lt_irrefl _ (nearest.less_iff beside |>.mp less).1
    · exact Bool.eq_false_iff.mpr fun less => lt_irrefl _ (beside.less_iff nearest |>.mp less).1

/-- A negative decimal that is read as zero and one beyond the greatest finite number. -/
theorem holds_exact_order_tiny_huge : DecimalField " -1e-4_00 " ∧ DecimalField "1_0.0e400" ∧
    ∃ q r, Exact " -1e-4_00 " q ∧ Exact "1_0.0e400" r ∧ q < r := by
  have decimal : ∀ raw : String, (parse? raw).isSome = true → (Text.trim raw.toList).any Char.isDigit = true →
      DecimalField raw := by
    intro raw accepted digits
    refine ⟨accepted, ?_⟩
    intro inner stripped member
    obtain ⟨c, present, digit⟩ := List.any_eq_true.mp digits
    rw [← stripped.eq_trim] at present
    rw [word_digitless member c present] at digit
    cases digit
  have tiny := decimal " -1e-4_00 " (by decide +kernel) (by decide)
  have huge := decimal "1_0.0e400" (by decide +kernel) (by decide)
  have holds : less.holds " -1e-4_00 " "1_0.0e400" = true := by decide +kernel
  obtain ⟨x, y, q, r, -, -, first, second, -, -, less, -⟩ := holds_exact_order tiny huge
  exact ⟨tiny, huge, q, r, (first q).mpr rfl, (second r).mpr rfl, (less.mp holds).1⟩

end Comparison
end TabularQuery
