import Mathlib.Data.List.DropRight
import TabularQuery.Proofs.FewestDigits
import TabularQuery.Proofs.NumberText

/-! The text of a number is canonical. It has the digits of the shortest decimal and no zero that could be left out, and the
number itself tells whether it is written in place or with an exponent. -/

namespace TabularQuery

namespace Literal

/-- The digits in front of an exponent, from the first to the last that is not zero. -/
def significantDigits (text : List Char) : List Char :=
  (((text.takeWhile (· != 'e')).filter Char.isDigit).dropWhile (· == '0')).rdropWhile (· == '0')

/-- Digits on both sides of a point, without a zero that could be left out. -/
inductive InPlace : List Char → Prop
  | written {whole fraction : List Char} (digital : Digits whole) (nonempty : whole ≠ [])
      (front : whole = ['0'] ∨ whole.head? ≠ some '0') (fractional : Digits fraction) (present : fraction ≠ [])
      (back : fraction = ['0'] ∨ fraction.getLast? ≠ some '0') : InPlace (whole ++ '.' :: fraction)

/-- One digit that is not zero, the others after a point, and an exponent with a sign and at least two digits. -/
inductive Scientific : List Char → Prop
  | written {leading sign : Char} {fraction exponent : List Char} (digit : leading.isDigit = true) (nonzero : leading ≠ '0')
      (fractional : Digits fraction) (back : fraction.getLast? ≠ some '0') (signed : sign = '+' ∨ sign = '-')
      (digital : Digits exponent) (wide : 2 ≤ exponent.length) (front : exponent.length = 2 ∨ exponent.head? ≠ some '0') :
      Scientific (leading :: (if fraction = [] then [] else '.' :: fraction) ++ 'e' :: sign :: exponent)

theorem InPlace.unmarked {text : List Char} (placed : InPlace text) : 'e' ∉ text := by
  obtain ⟨digital, -, -, fractional, -, -⟩ := placed
  exact Binary64.pointed_unmarked digital fractional

theorem Scientific.marked {text : List Char} (written : Scientific text) : 'e' ∈ text := by
  cases written
  exact List.mem_append_right _ List.mem_cons_self

/-- Digits that begin and end with one that is not zero. -/
structure Significant (digits : List Char) : Prop where
  digital : Digits digits
  nonempty : digits ≠ []
  first : digits.head? ≠ some '0'
  last : digits.getLast? ≠ some '0'

private theorem toDigits_head {n : ℕ} (positive : 0 < n) : (Nat.toDigits 10 n).head? ≠ some '0' := by
  induction n using Nat.strong_induction_on with
  | h n ih =>
    rcases Nat.lt_or_ge n 10 with single | several
    · simp [Nat.toDigits_of_lt_base single, positive.ne']
    · rw [Nat.toDigits_of_base_le (by decide) several, List.head?_append_of_ne_nil _ Nat.toDigits_ne_nil]
      exact ih (n / 10) (by omega) (by omega)

private theorem toDigits_last {n : ℕ} (indivisible : ¬ 10 ∣ n) : (Nat.toDigits 10 n).getLast? ≠ some '0' := by
  have nonzero : n % 10 ≠ 0 := fun zero => indivisible (Nat.dvd_of_mod_eq_zero zero)
  rcases Nat.lt_or_ge n 10 with single | several
  · rw [Nat.mod_eq_of_lt single] at nonzero
    simp [Nat.toDigits_of_lt_base single, nonzero]
  · simp [Nat.toDigits_of_base_le (by decide : 1 < 10) several, nonzero]

theorem significant_toDigits {n : ℕ} (indivisible : ¬ 10 ∣ n) : Significant (Nat.toDigits 10 n) where
  digital := digits_toDigits n
  nonempty := Nat.toDigits_ne_nil
  first := toDigits_head (Nat.pos_of_ne_zero fun zero => indivisible (zero ▸ Nat.dvd_zero 10))
  last := toDigits_last indivisible

section
variable {digits : List Char}

theorem Digits.kept (digital : Digits digits) : digits.filter Char.isDigit = digits :=
  List.filter_eq_self.mpr digital

theorem Digits.kept_pointed (digital : Digits digits) (places : ℕ) :
    (digits.take places ++ '.' :: digits.drop places).filter Char.isDigit = digits := by
  rw [List.filter_append, List.filter_cons_of_neg (by decide), ← List.filter_append, List.take_append_drop, digital.kept]

theorem InPlace.kept {text : List Char} (placed : InPlace text) : text.takeWhile (· != 'e') = text := by
  apply List.takeWhile_eq_self_iff.mpr
  exact Binary64.unmarked_bne placed.unmarked

theorem Significant.padded {text : List Char} (significant : Significant digits) (before after : ℕ)
    (kept : (text.takeWhile (· != 'e')).filter Char.isDigit =
      List.replicate before '0' ++ (digits ++ List.replicate after '0')) :
    significantDigits text = digits := by
  have zeros : ∀ count, ∀ c ∈ List.replicate count '0', (c == '0') = true := by
    intro count c member
    rw [List.eq_of_mem_replicate member]
    rfl
  have stays : ∀ rest : List Char, rest.head? ≠ some '0' → rest.dropWhile (· == '0') = rest := by
    intro rest other
    cases rest with
    | nil => rfl
    | cons c rest => simpa using other
  have front : (digits ++ List.replicate after '0').head? ≠ some '0' := by
    rw [List.head?_append_of_ne_nil digits significant.nonempty]
    exact significant.first
  have back : digits.reverse.head? ≠ some '0' := by
    rw [List.head?_reverse]
    exact significant.last
  rw [significantDigits, kept, List.dropWhile_append_of_pos (zeros before), stays _ front, List.rdropWhile,
    List.reverse_append, List.reverse_replicate, List.dropWhile_append_of_pos (zeros after), stays _ back, List.reverse_reverse]

/-- Significant digits with a point that stands among them, or behind as many zeros as it takes to reach it. -/
theorem Significant.inPlace (significant : Significant digits) (places : ℕ) :
    let padded := List.replicate (places + 2 - digits.length) '0' ++ digits
    InPlace (padded.take (padded.length - (places + 1)) ++ '.' :: padded.drop (padded.length - (places + 1))) := by
  intro padded
  have digital : Digits padded := by
    intro c member
    rcases List.mem_append.mp member with zero | digit
    · rw [List.eq_of_mem_replicate zero]
      rfl
    · exact significant.digital c digit
  have length : padded.length = places + 2 - digits.length + digits.length := by
    rw [List.length_append, List.length_replicate]
  have some := List.length_pos_of_ne_nil significant.nonempty
  refine .written (fun c member => digital c (List.mem_of_mem_take member)) ?_ ?_
    (fun c member => digital c (List.mem_of_mem_drop member)) ?_ (Or.inr ?_)
  · apply List.ne_nil_of_length_pos
    rw [List.length_take]
    omega
  · rcases Nat.lt_or_ge digits.length (places + 2) with short | long
    · left
      obtain ⟨zeros, count⟩ := Nat.exists_eq_add_of_lt short
      have one : padded.length - (places + 1) = 1 := by omega
      have first : places + 2 - digits.length = zeros + 1 := by omega
      rw [one]
      simp only [padded, first]
      rfl
    · right
      have none : places + 2 - digits.length = 0 := by omega
      rw [List.head?_take, if_neg (by omega)]
      simp only [padded, none]
      exact significant.first
  · apply List.ne_nil_of_length_pos
    rw [List.length_drop]
    omega
  · rw [List.getLast?_drop, if_neg (by omega), List.getLast?_append_of_ne_nil _ significant.nonempty]
    exact significant.last

theorem exponent_padded (n : ℕ) :
    let exponent := List.replicate (2 - (Nat.toDigits 10 n).length) '0' ++ Nat.toDigits 10 n
    Digits exponent ∧ 2 ≤ exponent.length ∧ (exponent.length = 2 ∨ exponent.head? ≠ some '0') := by
  intro exponent
  have length : exponent.length = 2 - (Nat.toDigits 10 n).length + (Nat.toDigits 10 n).length := by
    rw [List.length_append, List.length_replicate]
  refine ⟨digits_padded _ n, by omega, ?_⟩
  rcases Nat.lt_or_ge 2 (Nat.toDigits 10 n).length with long | short
  · right
    have none : 2 - (Nat.toDigits 10 n).length = 0 := by omega
    have positive : 0 < n := by
      rw [Nat.pos_iff_ne_zero]
      rintro rfl
      exact absurd long (by decide)
    simp only [exponent, none]
    exact toDigits_head positive
  · left
    omega

end

end Literal

namespace Decimal
open Literal Binary64

variable {d : Decimal}

/-- A decimal with a fraction has the digits of its coefficient behind as many zeros as it takes to reach the point. -/
theorem positional_canonical (significant : Significant (Nat.toDigits 10 d.coefficient)) (fractional : d.exponent < 0) :
    InPlace d.positional ∧ significantDigits d.positional = Nat.toDigits 10 d.coefficient := by
  obtain ⟨coefficient, exponent⟩ := d
  cases exponent with
  | ofNat zeros => exact absurd fractional (by simp)
  | negSucc places =>
    have placed := significant.inPlace places
    have padded := digits_padded (places + 2 - (Nat.toDigits 10 coefficient).length) coefficient
    refine ⟨placed, significant.padded (places + 2 - (Nat.toDigits 10 coefficient).length) 0 ?_⟩
    rw [positional, placed.kept, padded.kept_pointed, List.replicate_zero, List.append_nil]

theorem positional_whole_canonical (significant : Significant (Nat.toDigits 10 d.coefficient)) (whole : ¬ d.exponent < 0) :
    InPlace (d.positional ++ ['.', '0']) ∧ significantDigits (d.positional ++ ['.', '0']) = Nat.toDigits 10 d.coefficient := by
  obtain ⟨digital, present, -⟩ := d.positional_digits whole
  obtain ⟨coefficient, exponent⟩ := d
  cases exponent with
  | negSucc places => exact absurd (Int.negSucc_lt_zero places) whole
  | ofNat zeros =>
    have placed : InPlace (Decimal.positional ⟨coefficient, .ofNat zeros⟩ ++ ['.', '0']) := by
      refine .written digital present (Or.inr ?_) (digits_toDigits 0) (by simp) (Or.inl rfl)
      rw [positional, List.head?_append_of_ne_nil _ significant.nonempty]
      exact significant.first
    refine ⟨placed, significant.padded 0 (zeros + 1) ?_⟩
    rw [placed.kept, List.filter_append, digital.kept, List.replicate_succ']
    simp [positional]

theorem scientific_canonical (significant : Significant (Nat.toDigits 10 d.coefficient)) :
    Scientific (widenExponent d.scientific) ∧
      significantDigits (widenExponent d.scientific) = Nat.toDigits 10 d.coefficient := by
  have unmarked := no_mark (mantissa_plain significant.digital)
  have widened := widenExponent_marked unmarked d.leadingExponent
  obtain ⟨digital, wide, front⟩ := exponent_padded d.leadingExponent.natAbs
  have signed : ∀ negative : Prop, [Decidable negative] →
      (if negative then '-' else '+') = '+' ∨ (if negative then '-' else '+') = '-' := by
    intro negative _
    split
    · exact Or.inr rfl
    · exact Or.inl rfl
  rw [scientific, widened]
  generalize List.replicate (2 - (Nat.toDigits 10 d.leadingExponent.natAbs).length) '0' ++
    Nat.toDigits 10 d.leadingExponent.natAbs = exponent at *
  generalize Nat.toDigits 10 d.coefficient = digits at *
  obtain ⟨leading, fraction, rfl⟩ := List.exists_cons_of_ne_nil significant.nonempty
  have single : (leading :: fraction).length = 1 ↔ fraction = [] := by simp
  simp only [List.take_succ_cons, List.take_zero, List.drop_succ_cons, List.drop_zero, single, List.cons_append,
    List.nil_append] at unmarked ⊢
  constructor
  · refine .written (significant.digital leading List.mem_cons_self) ?_ ?_ ?_ (signed _) digital wide front
    · intro zero
      exact significant.first (congrArg some zero)
    · intro c member
      exact significant.digital c (List.mem_cons_of_mem _ member)
    · intro last
      apply significant.last
      rw [List.getLast?_cons, last]
      rfl
  · apply significant.padded 0 0
    rw [← List.cons_append, List.takeWhile_append_of_pos (unmarked_bne unmarked), List.takeWhile_cons_of_neg (by decide),
      List.append_nil, List.replicate_zero, List.nil_append, List.append_nil]
    split
    next none =>
      rw [none] at significant ⊢
      exact significant.digital.kept
    next =>
      exact significant.digital.kept_pointed 1

theorem compact_canonical (significant : Significant (Nat.toDigits 10 d.coefficient)) :
    (-4 ≤ d.leadingExponent ∧ d.leadingExponent < 16 → InPlace (widenExponent d.compact)) ∧
      (¬ (-4 ≤ d.leadingExponent ∧ d.leadingExponent < 16) → Scientific (widenExponent d.compact)) ∧
      significantDigits (widenExponent d.compact) = Nat.toDigits 10 d.coefficient := by
  rw [compact]
  split
  next inside =>
    have placed : InPlace (if d.exponent < 0 then d.positional else d.positional ++ ['.', '0']) ∧
        significantDigits (if d.exponent < 0 then d.positional else d.positional ++ ['.', '0']) =
          Nat.toDigits 10 d.coefficient := by
      split
      next fractional => exact positional_canonical significant fractional
      next whole => exact positional_whole_canonical significant whole
    rw [widenExponent_plain placed.1.unmarked]
    exact ⟨fun _ => placed.1, fun outside => absurd inside outside, placed.2⟩
  next outside =>
    obtain ⟨written, same⟩ := scientific_canonical significant
    exact ⟨fun inside => absurd inside outside, fun _ => written, same⟩

end Decimal

namespace Binary64
open Literal

/-- The magnitudes that are written in place. -/
def Ordinary (rank : ℕ) : Prop :=
  rank = 0 ∨ 1 / 10 ^ 4 ≤ magnitudeOfRank rank ∧ magnitudeOfRank rank < 10 ^ 16

theorem layout_iff {text : List Char} {ordinary : Prop} (inside : ordinary → InPlace text)
    (outside : ¬ ordinary → Scientific text) : (InPlace text ↔ ordinary) ∧ (Scientific text ↔ ¬ ordinary) := by
  constructor
  · refine ⟨?_, inside⟩
    intro placed
    by_contra other
    exact placed.unmarked (outside other).marked
  · refine ⟨?_, outside⟩
    intro written usual
    exact (inside usual).unmarked written.marked

/-- Every finite number is written in its fewest digits, nearest to the number, with the point in place or an exponent as
the number itself lies inside or outside the ordinary magnitudes. -/
theorem display_canonical (x : Binary64) (finite : x.isFinite = true) :
    ∃ body, x.display.toList = (if x.negative then ['-'] else []) ++ body ∧
      (InPlace body ↔ Ordinary x.rank) ∧ (Scientific body ↔ ¬ Ordinary x.rank) ∧
      (0 < x.rank → ∃ magnitude, Denotes x.display.toList x.negative magnitude ∧
        FewestDigits x.rank magnitude (significantDigits body).length) := by
  have bounded : x.rank < infinityRank := of_decide_eq_true finite
  rw [display_finite bounded, String.toList_ofList]
  refine ⟨widenExponent (if x.rank = 0 then ['0', '.', '0'] else x.shortest.compact), widenExponent_signed x _, ?_⟩
  rcases Nat.eq_zero_or_pos x.rank with zero | positive
  · have placed : InPlace ['0', '.', '0'] :=
      .written (digits_toDigits 0) (by simp) (Or.inl rfl) (digits_toDigits 0) (by simp) (Or.inl rfl)
    rw [if_pos zero, widenExponent_plain placed.unmarked]
    have ordinary : Ordinary x.rank := Or.inl zero
    obtain ⟨inside, outside⟩ := layout_iff (fun _ => placed) (absurd ordinary)
    exact ⟨inside, outside, fun positive => absurd zero positive.ne'⟩
  · have canonical := Decimal.compact_canonical (significant_toDigits (shortest_indivisible positive bounded))
    obtain ⟨inside, outside, same⟩ := canonical
    have usual : Ordinary x.rank ↔ -4 ≤ x.shortest.leadingExponent ∧ x.shortest.leadingExponent < 16 := by
      rw [leadingExponent_range positive bounded, Ordinary, or_iff_right positive.ne']
    rw [← usual] at inside outside
    obtain ⟨placed, written⟩ := layout_iff inside outside
    rw [if_neg positive.ne', same]
    exact ⟨placed, written, fun _ => ⟨_, x.compact_denotes positive, shortest_fewestDigits positive bounded⟩⟩

/-- Two units have one digit on a grid whose step is greater than the number. -/
theorem display_two_units : (ofBits 0x8000000000000002).isFinite = true ∧ (ofBits 0x8000000000000002).display = "-1e-323" ∧
    ∃ magnitude, Denotes "-1e-323".toList true magnitude ∧ FewestDigits 2 magnitude 1 := by
  have finite : (ofBits 0x8000000000000002).isFinite = true := by decide
  have text : (ofBits 0x8000000000000002).display = "-1e-323" := by decide +kernel
  obtain ⟨body, same, -, -, written⟩ := display_canonical _ finite
  obtain ⟨magnitude, denotes, fewest⟩ := written (by decide)
  rw [text] at same denotes
  obtain rfl : body = ['1', 'e', '-', '3', '2', '3'] := (List.cons.inj same).2.symm
  exact ⟨finite, text, magnitude, denotes, fewest⟩

end Binary64
end TabularQuery
