import Mathlib.Data.List.TakeWhile
import TabularQuery.Proofs.DecimalGrammar

/-! The grammar of the number in a field and the value of each of its texts. Reading accepts the field exactly when the
text inside its white space is in the grammar. -/

namespace TabularQuery

namespace Text

/-- The inner text is what is left without the white space at both ends. -/
def Stripped (text inner : List Char) : Prop :=
  ∃ before after, text = before ++ inner ++ after ∧ (∀ c ∈ before, isBlank c = true) ∧ (∀ c ∈ after, isBlank c = true) ∧
    (∀ c, inner.head? = some c → isBlank c = false) ∧ ∀ c, inner.getLast? = some c → isBlank c = false

theorem Stripped.eq_trim {text inner : List Char} (stripped : Stripped text inner) : inner = trim text := by
  obtain ⟨before, after, rfl, blankBefore, blankAfter, first, last⟩ := stripped
  cases inner with
  | nil =>
    have blank : ∀ c ∈ before ++ after, isBlank c = true := by
      intro c member
      exact (List.mem_append.mp member).elim (blankBefore c) (blankAfter c)
    simp [trim, List.dropWhile_eq_nil_iff.mpr blank]
  | cons c rest =>
    have kept : (before ++ (c :: rest) ++ after).dropWhile isBlank = c :: rest ++ after := by
      rw [List.append_assoc, List.dropWhile_append_of_pos blankBefore]
      simp [first c rfl]
    have reversed : ∀ c ∈ after.reverse, isBlank c = true := fun c member => blankAfter c (List.mem_reverse.mp member)
    obtain ⟨front, final, same⟩ := List.eq_nil_or_concat' (c :: rest) |>.resolve_left (by simp)
    rw [trim, kept, List.reverse_append, List.dropWhile_append_of_pos reversed, same, List.reverse_append]
    have stop : isBlank final = false := last final (by rw [same]; simp)
    simp [stop]

theorem stripped_trim (text : List Char) : Stripped text (trim text) := by
  let kept := text.dropWhile isBlank
  have front : text.takeWhile isBlank ++ kept = text := List.takeWhile_append_dropWhile
  have back : trim text ++ (kept.reverse.takeWhile isBlank).reverse = kept := by
    rw [trim, ← List.reverse_append, List.takeWhile_append_dropWhile, List.reverse_reverse]
  refine ⟨text.takeWhile isBlank, (kept.reverse.takeWhile isBlank).reverse, ?_, ?_, ?_, ?_, ?_⟩
  · rw [List.append_assoc, back, front]
  · exact List.all_eq_true.mp List.all_takeWhile
  · intro c member
    exact List.all_eq_true.mp List.all_takeWhile c (List.mem_reverse.mp member)
  · intro c first
    obtain ⟨rest, same⟩ := List.head?_eq_some_iff.mp first
    rw [same, List.cons_append] at back
    have starts : kept.head? = some c := by rw [← back]; rfl
    have refused := List.head?_dropWhile_not isBlank text
    rw [starts] at refused
    simpa using refused
  · intro c last
    rw [trim, List.getLast?_reverse] at last
    have refused := List.head?_dropWhile_not isBlank kept.reverse
    rw [last] at refused
    simpa using refused

theorem stripped_iff {text inner : List Char} : Stripped text inner ↔ inner = trim text :=
  ⟨Stripped.eq_trim, fun same => same ▸ stripped_trim text⟩

end Text

namespace Literal

def word : Language Char := {text | ∃ known ∈ nanWord :: infinityWords, Spells known text}

def literal : Language Char := sign * (word + decimal)

/-! A word reads the same with and without separators, since it can hold none. -/

theorem Spells.letters {known text : List Char} (spelled : Spells known text) (member : known ∈ nanWord :: infinityWords) :
    ∀ c ∈ text, c.isDigit = false ∧ c ≠ '_' := by
  have letters : (nanWord :: infinityWords).all (List.all · fun c => !c.isDigit && c != '_') = true := by decide
  intro c present
  have lowered : c.toLower ∈ known := by
    rw [← spelled]
    exact List.mem_map_of_mem present
  have letter := List.all_eq_true.mp (List.all_eq_true.mp letters known member) _ lowered
  constructor
  · by_contra digit
    rw [toLower_digit (by simpa using digit)] at letter
    simp [digit] at letter
  · rintro rfl
    cases letter

theorem sign_append_word {written body known : List Char} {negative : Bool} (signed : Sign written negative)
    (listed : known ∈ nanWord :: infinityWords) (spelled : Spells known body) : written ++ body ∈ sign * word :=
  Language.append_mem_mul (mem_sign.mpr ⟨negative, signed⟩) ⟨known, listed, spelled⟩

theorem mem_sign_mul_word {text : List Char} :
    text ∈ sign * word ↔ ∃ written body negative, Sign written negative ∧ text = written ++ body ∧
      ∃ known ∈ nanWord :: infinityWords, Spells known body := by
  constructor
  · rintro ⟨written, member, body, ⟨known, listed, spelled⟩, rfl⟩
    obtain ⟨negative, signed⟩ := mem_sign.mp member
    exact ⟨written, body, negative, signed, rfl, known, listed, spelled⟩
  · rintro ⟨written, body, negative, signed, rfl, known, listed, spelled⟩
    exact sign_append_word signed listed spelled

theorem word_separated {text : List Char} (member : text ∈ sign * word) :
    wellSeparated false text = true ∧ plain text = text := by
  obtain ⟨written, body, negative, signed, rfl, known, listed, spelled⟩ := mem_sign_mul_word.mp member
  obtain ⟨signSeparated, signPlain⟩ := signed.separated
  have kept : ∀ c ∈ body, c ≠ '_' := fun c present => (spelled.letters listed c present).2
  refine ⟨wellSeparated_append signSeparated (wellSeparated_of_plain kept false), ?_⟩
  rw [plain_append, signPlain, plain_eq_self kept]

/-- A word gains nothing from separators: there is no digit for one to stand behind. -/
theorem plain_eq_of_word {text : List Char} (separated : wellSeparated false text = true)
    (member : plain text ∈ sign * word) : plain text = text := by
  obtain ⟨written, body, negative, signed, same, known, listed, spelled⟩ := mem_sign_mul_word.mp member
  obtain ⟨rest, rfl, rfl, separatedRest⟩ := signed_split separated signed same
  have digitless : ∀ c ∈ rest, c.isDigit = false := by
    intro c present
    by_cases kept : c = '_'
    · subst kept
      rfl
    · exact (spelled.letters listed c (List.mem_filter.mpr ⟨present, by simp [kept]⟩)).1
  rw [plain_append, signed.separated.2, wellSeparated_without_digits separatedRest digitless]

/-! Reading follows the grammar: each of its texts stands for one number, and nothing else is read. -/

/-- The number that a text of the grammar stands for. The digits are those left when the separators are dropped. -/
inductive Reads : List Char → Binary64 → Prop
  | infinite {written body known : List Char} {negative : Bool} (signed : Sign written negative)
      (listed : known ∈ infinityWords) (spelled : Spells known body) : Reads (written ++ body) (.infinity negative)
  | nan {written body : List Char} {negative : Bool} (signed : Sign written negative) (spelled : Spells nanWord body) :
      Reads (written ++ body) .nan
  | decimal {text : List Char} {magnitude : ℚ} {x : Binary64} (separated : text ∈ sign * decimal)
      (denotes : Denotes (plain text) x.negative magnitude) (rounded : Binary64.RoundsTo magnitude x.rank) : Reads text x

theorem Reads.grammatical {text : List Char} {x : Binary64} (reads : Reads text x) : text ∈ literal := by
  rw [literal, mul_add]
  cases reads with
  | infinite signed listed spelled => exact Or.inl (sign_append_word signed (List.mem_cons_of_mem _ listed) spelled)
  | nan signed spelled => exact Or.inl (sign_append_word signed List.mem_cons_self spelled)
  | decimal separated => exact Or.inr separated

theorem exists_reads {text : List Char} (member : text ∈ literal) : ∃ x, Reads text x := by
  rw [literal, mul_add] at member
  rcases member with spelled | separated
  · obtain ⟨written, body, negative, signed, rfl, known, listed, spelled⟩ := mem_sign_mul_word.mp spelled
    rcases List.mem_cons.mp listed with rfl | listed
    exacts [⟨_, .nan signed spelled⟩, ⟨_, .infinite signed listed spelled⟩]
  · obtain ⟨-, negative, magnitude, denotes⟩ := mem_sign_mul_decimal.mp separated
    obtain ⟨x, -, rfl, rounded⟩ := ofPlain?_of_denotes denotes
    exact ⟨x, .decimal separated denotes rounded⟩

theorem ofPlain?_of_reads {text : List Char} {x : Binary64} (reads : Reads text x) :
    wellSeparated false text = true ∧ ofPlain? (plain text) = some x := by
  cases reads with
  | infinite signed listed spelled =>
    obtain ⟨separated, same⟩ := word_separated (sign_append_word signed (List.mem_cons_of_mem _ listed) spelled)
    rw [same]
    exact ⟨separated, ofPlain?_infinity signed listed spelled⟩
  | nan signed spelled =>
    obtain ⟨separated, same⟩ := word_separated (sign_append_word signed List.mem_cons_self spelled)
    rw [same]
    exact ⟨separated, ofPlain?_nan signed spelled⟩
  | decimal separated denotes rounded =>
    obtain ⟨y, read, signed, nearest⟩ := ofPlain?_of_denotes denotes
    obtain rfl := Binary64.ext_rank signed (nearest.unique rounded)
    exact ⟨(mem_sign_mul_decimal.mp separated).1, read⟩

theorem reads_of_ofPlain? {text : List Char} {x : Binary64} (separated : wellSeparated false text = true)
    (read : ofPlain? (plain text) = some x) : Reads text x := by
  have grammatical : text ∈ literal := by
    rw [literal, mul_add]
    rcases denotes_of_ofPlain? read with ⟨written, body, negative, signed, same, spelled⟩ | denotes
    · have member := mem_sign_mul_word.mpr ⟨written, body, negative, signed, same, spelled⟩
      rw [plain_eq_of_word separated member] at member
      exact Or.inl member
    · exact Or.inr (mem_sign_mul_decimal.mpr ⟨separated, denotes⟩)
  obtain ⟨y, reads⟩ := exists_reads grammatical
  have same := (ofPlain?_of_reads reads).2
  obtain rfl := Option.some.inj (same.symm.trans read)
  exact reads

theorem parse?_eq (raw : String) : parse? raw =
    if wellSeparated false (Text.trim raw.toList) then ofPlain? (plain (Text.trim raw.toList)) else none := rfl

theorem parse?_eq_some {raw : String} {x : Binary64} : parse? raw = some x ↔ Reads (Text.trim raw.toList) x := by
  rw [parse?_eq]
  constructor
  · intro read
    split at read
    next separated => exact reads_of_ofPlain? separated read
    next => cases read
  · intro reads
    obtain ⟨separated, read⟩ := ofPlain?_of_reads reads
    rw [if_pos separated, read]

theorem parse?_of_denotes {raw : String} {x : Binary64} {negative : Bool} {magnitude : ℚ} (read : parse? raw = some x)
    (denotes : Denotes (plain (Text.trim raw.toList)) negative magnitude) :
    x.negative = negative ∧ Binary64.RoundsTo magnitude x.rank := by
  obtain ⟨y, reread, signed, rounded⟩ := ofPlain?_of_denotes denotes
  rw [(ofPlain?_of_reads (parse?_eq_some.mp read)).2] at reread
  obtain rfl := Option.some.inj reread
  exact ⟨signed, rounded⟩

/-- Every field has one text inside its white space. It is read exactly when the grammar has it, as the number it
stands for: a decimal as the number nearest to the magnitude its digits denote, which is infinite from halfway beyond
the greatest finite number and zero up to half a unit. Texts that differ only in separators are read alike. -/
theorem parse?_grammar (raw : String) :
    ∃ text, (∀ inner, Text.Stripped raw.toList inner ↔ inner = text) ∧
      ((parse? raw).isSome = true ↔ text ∈ literal) ∧
      (∀ x, parse? raw = some x ↔ Reads text x) ∧
      (text ∈ sign * decimal → ∃ negative magnitude, Denotes (plain text) negative magnitude) ∧
      (∀ x negative magnitude, parse? raw = some x → Denotes (plain text) negative magnitude →
        x.negative = negative ∧ Binary64.RoundsTo magnitude x.rank ∧
          (x.rank = Binary64.infinityRank ↔ 2 ^ 1024 - 2 ^ 970 ≤ magnitude) ∧ (x.rank = 0 ↔ magnitude ≤ 1 / 2 ^ 1075)) ∧
      ∀ other inner, Text.Stripped other.toList inner → inner ∈ literal → text ∈ literal → plain inner = plain text →
        parse? other = parse? raw := by
  refine ⟨Text.trim raw.toList, fun _ => Text.stripped_iff, ?_, fun _ => parse?_eq_some,
    fun member => (mem_sign_mul_decimal.mp member).2, ?_, ?_⟩
  · rw [Option.isSome_iff_exists]
    constructor
    · rintro ⟨x, read⟩
      exact (parse?_eq_some.mp read).grammatical
    · intro member
      obtain ⟨x, reads⟩ := exists_reads member
      exact ⟨x, parse?_eq_some.mpr reads⟩
  · intro x negative magnitude read denotes
    obtain ⟨signed, rounded⟩ := parse?_of_denotes read denotes
    exact ⟨signed, rounded, rounded.eq_infinity_iff, rounded.eq_zero_iff⟩
  · intro other inner stripped first second same
    obtain rfl := stripped.eq_trim
    obtain ⟨x, reads⟩ := exists_reads first
    obtain ⟨y, rereads⟩ := exists_reads second
    have equal : some x = some y := by rw [← (ofPlain?_of_reads reads).2, same, (ofPlain?_of_reads rereads).2]
    rw [parse?_eq_some.mpr reads, parse?_eq_some.mpr rereads, equal]

example : parse? " 1_0.5e-0_1 " = parse? "1.05" := by decide +kernel

end Literal

end TabularQuery
