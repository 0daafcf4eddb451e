import Mathlib.Order.Bounds.Defs
import TabularQuery.Proofs.TextLoading

/-! Bytes that are no text, and how far they are text. Characters are read one by one up to the first bytes that are none.
No longer beginning is text, because a text begins with a character wherever it is cut between characters. -/

namespace TabularQuery

namespace Text

theorem Encoded.decodes {whole : List UInt8} (encoded : Encoded whole) (nonempty : whole ≠ []) (rest : List UInt8) :
    ∃ c, (whole ++ rest).toByteArray.utf8DecodeChar? 0 = some c := by
  obtain ⟨text, rfl⟩ := encoded
  rw [encode_eq] at nonempty ⊢
  generalize text.toList = characters at nonempty ⊢
  cases characters with
  | nil => exact absurd rfl nonempty
  | cons c characters =>
    refine ⟨c, ?_⟩
    rw [List.flatMap_cons, List.append_assoc, List.toByteArray_append]
    exact ByteArray.utf8DecodeChar?_utf8EncodeChar_append

theorem utf8DecodeChar?_behind (front rest : List UInt8) :
    (front ++ rest).toByteArray.utf8DecodeChar? front.length = rest.toByteArray.utf8DecodeChar? 0 := by
  rw [ByteArray.utf8DecodeChar?_eq_utf8DecodeChar?_extract, List.toByteArray_append]
  congr 1
  exact ByteArray.extract_append_eq_right (by simp) (by simp)

theorem exists_of_utf8DecodeChar? {bytes : List UInt8} {c : Char} (found : bytes.toByteArray.utf8DecodeChar? 0 = some c) :
    ∃ rest, bytes = String.utf8EncodeChar c ++ rest := by
  obtain ⟨rest, same⟩ := ByteArray.exists_of_utf8DecodeChar?_eq_some found
  refine ⟨rest.data.toList, ?_⟩
  have written := congrArg (fun array : ByteArray => array.data.toList) same
  simpa using written

theorem wholeCharacters_splits (front rest : List UInt8) :
    ∃ whole left, rest = whole ++ left ∧ Encoded whole ∧ left.toByteArray.utf8DecodeChar? 0 = none ∧
      wholeCharacters (front ++ rest).toByteArray front.length = front.length + whole.length := by
  induction length : rest.length using Nat.strong_induction_on generalizing front rest with
  | _ length ih =>
    have total : (front ++ rest).toByteArray.size = front.length + rest.length := by simp
    rw [wholeCharacters]
    split
    next inside =>
      rw [utf8DecodeChar?_behind]
      cases found : rest.toByteArray.utf8DecodeChar? 0 with
      | none => exact ⟨[], rest, rfl, .nil, found, rfl⟩
      | some c =>
        obtain ⟨more, rfl⟩ := exists_of_utf8DecodeChar? found
        rw [List.length_append, String.length_utf8EncodeChar] at length
        have positive := c.utf8Size_pos
        obtain ⟨whole, left, rfl, encoded, ended, count⟩ :=
          ih more.length (by omega) (front ++ String.utf8EncodeChar c) more rfl
        refine ⟨String.utf8EncodeChar c ++ whole, left, (List.append_assoc ..).symm, (encoded_char c).append encoded, ended, ?_⟩
        simp only [List.append_assoc, List.length_append, String.length_utf8EncodeChar] at count ⊢
        rw [count, Nat.add_assoc]
    next beyond =>
      have empty : rest = [] := List.eq_nil_of_length_eq_zero (by omega)
      subst empty
      exact ⟨[], [], rfl, .nil, rfl, rfl⟩

theorem decode_of_not_encoded {bytes : List UInt8} (other : ¬ Encoded bytes) :
    decode bytes = .error (wholeCharacters bytes.toByteArray 0) := by
  rw [encoded_iff] at other
  rw [decode, String.fromUTF8?, dif_neg other]

/-- Of bytes that are no text the whole characters are the longest beginning that is text. -/
theorem wholeCharacters_isGreatest {bytes : List UInt8} (other : ¬ Encoded bytes) :
    IsGreatest {n | Encoded (bytes.take n)} (wholeCharacters bytes.toByteArray 0) := by
  obtain ⟨whole, left, rfl, encoded, ended, count⟩ := wholeCharacters_splits [] bytes
  replace count : wholeCharacters (whole ++ left).toByteArray 0 = whole.length := by simpa using count
  rw [count]
  constructor
  · rw [Set.mem_ofPred_eq, List.take_left]
    exact encoded
  · intro n longer
    by_contra beyond
    rw [Set.mem_ofPred_eq, List.take_append, List.take_of_length_le (by omega)] at longer
    have more := encoded.behind longer
    cases left with
    | nil =>
      rw [List.append_nil] at other
      exact other encoded
    | cons byte rest =>
      have nonempty : (byte :: rest).take (n - whole.length) ≠ [] := by
        rw [ne_eq, List.take_eq_nil_iff]
        rintro (none | none)
        · omega
        · cases none
      obtain ⟨c, found⟩ := more.decodes nonempty ((byte :: rest).drop (n - whole.length))
      rw [List.take_append_drop, ended] at found
      cases found

end Text

end TabularQuery
