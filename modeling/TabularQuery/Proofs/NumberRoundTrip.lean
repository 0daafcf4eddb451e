import TabularQuery.Proofs.LiteralGrammar
import TabularQuery.Proofs.NumberText

/-! A written number reads back as the same number. The text of a result holds neither white space nor separators, so
reading sees the whole of it, and its shortest decimal rounds to the number that was written. -/

namespace TabularQuery

namespace Literal

/-- Reading looks at the text itself where nothing is stripped and no separator is dropped. -/
def Visible (text : List Char) : Prop := ∀ c ∈ text, Text.isBlank c = false ∧ c ≠ '_'

theorem Visible.append {first second : List Char} (left : Visible first) (right : Visible second) :
    Visible (first ++ second) := by
  intro c member
  exact (List.mem_append.mp member).elim (left c) (right c)

theorem Visible.cons {c : Char} {text : List Char} (first : Text.isBlank c = false ∧ c ≠ '_') (rest : Visible text) :
    Visible (c :: text) := by
  intro d member
  rcases List.mem_cons.mp member with rfl | inside
  exacts [first, rest d inside]

theorem Digits.visible {digits : List Char} (digital : Digits digits) : Visible digits := by
  intro c member
  refine ⟨?_, not_separator (digital c member)⟩
  have range := digital c member
  simp only [Char.isDigit, Bool.and_eq_true, decide_eq_true_eq, ge_iff_le, UInt32.le_iff_toNat_le] at range
  have low : '0'.val.toNat = 48 := rfl
  have high : '9'.val.toNat = 57 := rfl
  have code : c.toNat = c.val.toNat := rfl
  rw [Bool.eq_false_iff]
  intro blank
  simp only [Text.isBlank, Bool.or_eq_true, Bool.and_eq_true, decide_eq_true_eq, beq_iff_eq] at blank
  omega

theorem Sign.visible {text : List Char} {negative : Bool} (signed : Sign text negative) : Visible text := by
  cases signed <;> simp [Visible] <;> decide

theorem Denotes.visible {text : List Char} {negative : Bool} {magnitude : ℚ} (denotes : Denotes text negative magnitude) :
    Visible text := by
  obtain ⟨signed, ⟨digital, pointed, -, scaled⟩⟩ := denotes
  refine signed.visible.append ((digital.visible.append ?_).append ?_)
  · cases pointed with
    | absent => exact nofun
    | present fractional => exact fractional.visible.cons (by decide)
  · cases scaled with
    | absent => exact nofun
    | present marked signed digital =>
      refine (signed.visible.append digital.visible).cons ?_
      rcases marked with rfl | rfl <;> decide

theorem parse?_of_visible {text : List Char} (visible : Visible text) : parse? (String.ofList text) = ofPlain? text := by
  have kept : ∀ c ∈ text, c ≠ '_' := fun c member => (visible c member).2
  have stripped : Text.Stripped text text :=
    ⟨[], [], by simp, nofun, nofun, fun c first => (visible c (List.mem_of_mem_head? first)).1,
      fun c last => (visible c (List.mem_of_mem_getLast? last)).1⟩
  rw [parse?_eq, String.toList_ofList, ← stripped.eq_trim, if_pos (wellSeparated_of_plain kept false), plain_eq_self kept]

end Literal

namespace Binary64

open Literal

theorem toBits_ofBits (bits : UInt64) : (ofBits bits).toBits = bits := by
  have bound := bits.toNat_lt
  apply UInt64.toNat_inj.mp
  simp only [toBits, ofBits, UInt64.toNat_ofNat', decide_eq_true_eq]
  split <;> omega

private theorem parse?_zero (negative : Bool) :
    parse? (String.ofList (widenExponent (zero negative).compact)) = some (zero negative) := by
  cases negative <;> decide

private theorem parse?_finite {x : Binary64} (finite : x.rank < infinityRank) :
    parse? (String.ofList (widenExponent x.compact)) = some x := by
  rcases Nat.eq_zero_or_pos x.rank with zero | positive
  · have same : x = Binary64.zero x.negative := ext_rank rfl zero
    rw [same]
    exact parse?_zero x.negative
  · have denotes := x.compact_denotes positive
    obtain ⟨y, read, signed, rounded⟩ := ofPlain?_of_denotes denotes
    have same : y = x := ext_rank signed (rounded.unique (x.shortest_roundsTo positive finite))
    rw [parse?_of_visible denotes.visible, read, same]

private theorem parse?_infinity (negative : Bool) : parse? (infinity negative).display = some (infinity negative) := by
  cases negative <;> decide

@[simp] theorem isNaN_nan : nan.isNaN = true := by decide

theorem parse?_display (x : Binary64) : parse? x.display = some (if x.isNaN then nan else x) := by
  by_cases number : x.isNaN = true
  · rw [if_pos number, display, if_pos number]
    decide
  · rw [if_neg number]
    by_cases infinite : x.isInfinite = true
    · have same : x = infinity x.negative := ext_rank rfl (of_decide_eq_true infinite)
      rw [same]
      exact parse?_infinity x.negative
    · rw [display, if_neg number, if_neg infinite]
      simp only [isNaN, isInfinite, decide_eq_true_eq] at number infinite
      exact parse?_finite (by omega)

/-- Every number is written as a text that reads back to the same bits, so distinct numbers have distinct texts. What is
not a number is written as one word, which reads back as not a number. -/
theorem display_roundTrip (bits : UInt64) :
    ((ofBits bits).isNaN = false → ∃ y, parse? (ofBits bits).display = some y ∧ y.toBits = bits) ∧
      ((ofBits bits).isNaN = true → (ofBits bits).display = "nan" ∧ ∃ y, parse? "nan" = some y ∧ y.isNaN = true) ∧
      ∀ other, (ofBits bits).isNaN = false → (ofBits other).isNaN = false →
        (ofBits bits).display = (ofBits other).display → bits = other := by
  have read := parse?_display (ofBits bits)
  refine ⟨fun number => ⟨ofBits bits, ?_, toBits_ofBits bits⟩, fun notNumber => ⟨?_, nan, by decide, by decide⟩, ?_⟩
  · rwa [if_neg (by simp [number])] at read
  · rw [display, if_pos notNumber]
  · intro other number otherNumber same
    have reread := parse?_display (ofBits other)
    rw [if_neg (by simp [number])] at read
    rw [if_neg (by simp [otherNumber]), ← same, read] at reread
    rw [← toBits_ofBits bits, ← toBits_ofBits other, Option.some.inj reread]

end Binary64

end TabularQuery
