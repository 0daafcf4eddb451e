import Mathlib.Computability.Language
import TabularQuery.Proofs.PlainLiteral

/-! Runs of digits with separators. A run is a text whose separators each stand between two digits and which is nothing
but digits without them, so a number can be taken apart before or after its separators are dropped. -/

namespace TabularQuery.Literal

open scoped Computability

/-- A text without its separators. -/
def plain (text : List Char) : List Char := text.filter (· != '_')

theorem plain_append (first second : List Char) : plain (first ++ second) = plain first ++ plain second :=
  List.filter_append _ _

theorem plain_cons {c : Char} (other : c ≠ '_') (text : List Char) : plain (c :: text) = c :: plain text := by
  simp [plain, other]

theorem plain_separator (text : List Char) : plain ('_' :: text) = plain text := by simp [plain]

/-! Texts whose separators are well placed can be joined, and cut at any character that is no digit. -/

theorem wellSeparated_cons {c : Char} (other : c ≠ '_') (afterDigit : Bool) (text : List Char) :
    wellSeparated afterDigit (c :: text) = wellSeparated c.isDigit text := by
  simp [wellSeparated, other]

theorem not_separator {c : Char} (digital : c.isDigit = true) : c ≠ '_' := by
  rintro rfl
  cases digital

theorem wellSeparated_separator {afterDigit : Bool} {text : List Char} :
    wellSeparated afterDigit ('_' :: text) = true ↔
      afterDigit = true ∧ ∃ c rest, text = c :: rest ∧ c.isDigit = true ∧ wellSeparated true rest = true := by
  have underscore : Char.isDigit '_' = false := rfl
  cases text with
  | nil => simp [wellSeparated]
  | cons c rest =>
    by_cases digital : c.isDigit = true
    · simp [wellSeparated, digital, not_separator digital]
    · simp [wellSeparated, digital]

theorem wellSeparated_weaken {text : List Char} (separated : wellSeparated false text = true) (afterDigit : Bool) :
    wellSeparated afterDigit text = true := by
  cases text with
  | nil => rfl
  | cons c rest =>
    have other : c ≠ '_' := by rintro rfl; simp [wellSeparated] at separated
    rwa [wellSeparated_cons other] at separated ⊢

theorem wellSeparated_append {first second : List Char} {afterDigit : Bool} (left : wellSeparated afterDigit first = true)
    (right : wellSeparated false second = true) : wellSeparated afterDigit (first ++ second) = true := by
  induction first generalizing afterDigit with
  | nil => exact wellSeparated_weaken right afterDigit
  | cons c rest ih =>
    rw [wellSeparated, Bool.and_eq_true] at left
    rw [List.cons_append, wellSeparated, Bool.and_eq_true]
    refine ⟨?_, ih left.2⟩
    cases rest with
    | nil =>
      have other : c ≠ '_' := by simpa using left.1
      simp [other]
    | cons d rest => exact left.1

theorem wellSeparated_without_digits {text : List Char} (separated : wellSeparated false text = true)
    (digitless : ∀ c ∈ text, c.isDigit = false) : plain text = text := by
  induction text with
  | nil => rfl
  | cons c rest ih =>
    by_cases other : c = '_'
    · subst other
      cases (wellSeparated_separator.mp separated).1
    · rw [wellSeparated_cons other, digitless c List.mem_cons_self] at separated
      rw [plain_cons other, ih separated fun d member => digitless d (List.mem_cons_of_mem c member)]

theorem wellSeparated_around {c : Char} (notDigit : c.isDigit = false) (kept : c ≠ '_') (afterDigit : Bool)
    (before after : List Char) : wellSeparated afterDigit (before ++ c :: after) =
      (wellSeparated afterDigit before && wellSeparated false after) := by
  induction before generalizing afterDigit with
  | nil => simp [wellSeparated, kept, notDigit]
  | cons d rest ih =>
    have next : (rest ++ c :: after).head?.any Char.isDigit = rest.head?.any Char.isDigit := by
      cases rest <;> simp [notDigit]
    rw [List.cons_append, wellSeparated, wellSeparated, ih, next, Bool.and_assoc]

theorem plain_split {text first second : List Char} {c : Char} (same : plain text = first ++ c :: second) :
    ∃ before after, text = before ++ c :: after ∧ c ≠ '_' ∧ plain before = first ∧ plain after = second := by
  obtain ⟨front, back, rfl, rfl, rest⟩ := List.filter_eq_append_iff.mp same
  obtain ⟨marks, after, rfl, dropped, kept, rfl⟩ := List.filter_eq_cons_iff.mp rest
  have none : plain marks = [] := List.filter_eq_nil_iff.mpr dropped
  refine ⟨front ++ marks, after, by rw [List.append_assoc], by simpa using kept, ?_, rfl⟩
  rw [plain_append, none, List.append_nil]
  rfl

theorem wellSeparated_split {text first second : List Char} {c : Char} {afterDigit : Bool}
    (separated : wellSeparated afterDigit text = true) (notDigit : c.isDigit = false)
    (same : plain text = first ++ c :: second) :
    ∃ before after, text = before ++ c :: after ∧ plain before = first ∧ plain after = second ∧
      wellSeparated afterDigit before = true ∧ wellSeparated false after = true := by
  obtain ⟨before, after, rfl, kept, rfl, rfl⟩ := plain_split same
  rw [wellSeparated_around notDigit kept, Bool.and_eq_true] at separated
  exact ⟨before, after, rfl, rfl, rfl, separated⟩

theorem wellSeparated_of_plain {text : List Char} (kept : ∀ c ∈ text, c ≠ '_') (afterDigit : Bool) :
    wellSeparated afterDigit text = true := by
  induction text generalizing afterDigit with
  | nil => rfl
  | cons c rest ih =>
    rw [wellSeparated_cons (kept c List.mem_cons_self)]
    exact ih (fun d member => kept d (List.mem_cons_of_mem c member)) _

theorem plain_eq_self {text : List Char} (kept : ∀ c ∈ text, c ≠ '_') : plain text = text := by
  simpa [plain, List.filter_eq_self] using kept

/-! Runs as a language, and as well separated digits. -/

def optional (language : Language Char) : Language Char := 1 + language

def digit : Language Char := {text | ∃ c : Char, c.isDigit = true ∧ text = [c]}

/-- Digits and separators that may follow a digit. -/
def continuation : Language Char := (optional {['_']} * digit)∗

def run : Language Char := digit * continuation

theorem digits_plain_cons {c : Char} {text : List Char} (kept : c ≠ '_') :
    Digits (plain (c :: text)) ↔ c.isDigit = true ∧ Digits (plain text) := by
  simp [plain_cons kept, Digits]

theorem digit_append_continuation {c : Char} {text : List Char} (digital : c.isDigit = true) (tail : text ∈ continuation) :
    c :: text ∈ run := Language.mem_mul.mpr ⟨[c], ⟨c, digital, rfl⟩, text, tail, rfl⟩

theorem continuation_cons {text : List Char} (more : text ∈ optional {['_']} * run) : text ∈ continuation := by
  rw [continuation, ← Language.one_add_self_mul_kstar_eq_kstar, mul_assoc]
  exact Or.inr more

/-- The two halves carry each other: a separator is followed by a run, and the first digit of a run by a
continuation. -/
theorem digits_of_wellSeparated {text : List Char} (digital : Digits (plain text)) :
    (wellSeparated true text = true → text ∈ continuation) ∧
      (wellSeparated false text = true → text ≠ [] → text ∈ run) := by
  induction text with
  | nil => exact ⟨fun _ => Language.nil_mem_kstar _, fun _ nonempty => absurd rfl nonempty⟩
  | cons c rest ih =>
    by_cases other : c = '_'
    · subst other
      rw [plain_separator] at digital
      refine ⟨fun separated => ?_, fun separated => absurd (wellSeparated_separator.mp separated).1 (by decide)⟩
      obtain ⟨-, d, tail, rfl, first, separated⟩ := wellSeparated_separator.mp separated
      have following := (ih digital).2 (by rwa [wellSeparated_cons (not_separator first), first]) (by simp)
      exact continuation_cons (Language.mem_mul.mpr ⟨['_'], Or.inr rfl, d :: tail, following, rfl⟩)
    · obtain ⟨first, digital⟩ := (digits_plain_cons other).mp digital
      have begun (afterDigit : Bool) (separated : wellSeparated afterDigit (c :: rest) = true) : c :: rest ∈ run := by
        rw [wellSeparated_cons other, first] at separated
        exact digit_append_continuation first ((ih digital).1 separated)
      refine ⟨fun separated => ?_, fun separated _ => begun false separated⟩
      exact continuation_cons (Language.mem_mul.mpr ⟨[], Or.inl rfl, c :: rest, begun true separated, rfl⟩)

theorem wellSeparated_of_continuation {text : List Char} (tail : text ∈ continuation) :
    wellSeparated true text = true ∧ Digits (plain text) := by
  obtain ⟨pieces, rfl, each⟩ := Language.mem_kstar.mp tail
  clear tail
  induction pieces with
  | nil => exact ⟨rfl, by simp [Digits, plain]⟩
  | cons piece pieces ih =>
    obtain ⟨separated, digital⟩ := ih fun piece member => each piece (List.mem_cons_of_mem _ member)
    obtain ⟨mark, optionalMark, _, ⟨c, digit, rfl⟩, rfl⟩ := Language.mem_mul.mp (each piece List.mem_cons_self)
    have kept := not_separator digit
    have begun : wellSeparated true (c :: pieces.flatten) = true ∧ Digits (plain (c :: pieces.flatten)) := by
      rw [wellSeparated_cons kept, digits_plain_cons kept, digit]
      exact ⟨separated, rfl, digital⟩
    rcases optionalMark with rfl | rfl
    · exact begun
    · refine ⟨wellSeparated_separator.mpr ⟨rfl, c, _, rfl, digit, separated⟩, ?_⟩
      exact (congrArg Digits (plain_separator (c :: pieces.flatten))).mpr begun.2

theorem mem_run {text : List Char} :
    text ∈ run ↔ wellSeparated false text = true ∧ Digits (plain text) ∧ plain text ≠ [] := by
  constructor
  · intro member
    obtain ⟨_, ⟨c, digit, rfl⟩, rest, tail, rfl⟩ := Language.mem_mul.mp member
    obtain ⟨separated, digital⟩ := wellSeparated_of_continuation tail
    have kept := not_separator digit
    rw [List.singleton_append, wellSeparated_cons kept, digits_plain_cons kept, plain_cons kept, digit]
    exact ⟨separated, ⟨rfl, digital⟩, by simp⟩
  · rintro ⟨separated, digital, nonempty⟩
    refine (digits_of_wellSeparated digital).2 separated ?_
    rintro rfl
    exact nonempty rfl

theorem mem_optional_run {text : List Char} :
    text ∈ optional run ↔ wellSeparated false text = true ∧ Digits (plain text) := by
  constructor
  · rintro (rfl | member)
    · exact ⟨rfl, by simp [Digits, plain]⟩
    · exact ⟨(mem_run.mp member).1, (mem_run.mp member).2.1⟩
  · rintro ⟨separated, digital⟩
    by_cases empty : text = []
    · exact Or.inl empty
    · exact Or.inr ((digits_of_wellSeparated digital).2 separated empty)

theorem plain_eq_nil {text : List Char} (separated : wellSeparated false text = true) (empty : plain text = []) :
    text = [] := by
  rcases mem_optional_run.mpr ⟨separated, by simp [Digits, empty]⟩ with nothing | member
  · exact nothing
  · exact absurd empty (mem_run.mp member).2.2

theorem wellSeparated_first {text second : List Char} {c : Char} (separated : wellSeparated false text = true)
    (same : plain text = c :: second) (notDigit : c.isDigit = false) :
    ∃ after, text = c :: after ∧ plain after = second ∧ wellSeparated false after = true := by
  have nothing : plain text = [] ++ c :: second := same
  obtain ⟨before, after, rfl, empty, rfl, left, right⟩ := wellSeparated_split separated notDigit nothing
  obtain rfl := plain_eq_nil left empty
  exact ⟨after, rfl, rfl, right⟩

end TabularQuery.Literal
