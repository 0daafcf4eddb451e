import Mathlib.Data.Set.List
import TabularQuery.Proofs.DelimitedRoundTrip

/-! Text is cut into texts. With a delimiter among the first 128 bytes, every byte at which
the scanner cuts or skips is a character of its own: longer characters are made of other
bytes, and these are kept at every place. So whole characters come into the field in hand. -/

namespace TabularQuery

namespace Text

theorem encode_eq (text : String) : encode text = text.toList.flatMap String.utf8EncodeChar := by
  rw [encode, String.toUTF8_eq_toByteArray, ← String.utf8Encode_toList, List.utf8Encode, List.toList_data_toByteArray]

theorem encode_append (first second : String) : encode (first ++ second) = encode first ++ encode second := by
  rw [encode_eq, encode_eq, encode_eq, String.toList_append, List.flatMap_append]

/-- Bytes that are whole characters. -/
def Encoded (bytes : List UInt8) : Prop := bytes ∈ Set.range encode

theorem Encoded.nil : Encoded [] := ⟨"", rfl⟩

theorem Encoded.append {first second : List UInt8} (left : Encoded first) (right : Encoded second) :
    Encoded (first ++ second) := by
  obtain ⟨text, rfl⟩ := left
  obtain ⟨more, rfl⟩ := right
  exact ⟨text ++ more, encode_append text more⟩

theorem encoded_char (c : Char) : Encoded (String.utf8EncodeChar c) :=
  ⟨String.ofList [c], by rw [encode_eq, String.toList_ofList, List.flatMap_singleton]⟩

theorem utf8EncodeChar_cases (c : Char) :
    (∃ byte, String.utf8EncodeChar c = [byte]) ∨ ∀ byte ∈ String.utf8EncodeChar c, 128 ≤ byte := by
  have high : ∀ {n : Nat}, 128 ≤ n → n < 256 → 128 ≤ UInt8.ofNat n := by
    intro n large small
    rw [UInt8.le_iff_toNat_le, UInt8.toNat_ofNat', Nat.mod_eq_of_lt small]
    exact large
  unfold String.utf8EncodeChar
  dsimp only
  split
  next => exact Or.inl ⟨_, rfl⟩
  next =>
    right
    split
    next =>
      simp only [List.forall_mem_cons]
      exact ⟨high (by omega) (by omega), high (by omega) (by omega), nofun⟩
    next =>
      split
      next =>
        simp only [List.forall_mem_cons]
        exact ⟨high (by omega) (by omega), high (by omega) (by omega), high (by omega) (by omega), nofun⟩
      next =>
        simp only [List.forall_mem_cons]
        exact ⟨high (by omega) (by omega), high (by omega) (by omega), high (by omega) (by omega),
          high (by omega) (by omega), nofun⟩

end Text

namespace Delimited
open Text

/-- All that a scan has in hand or has completed is text. -/
structure Scan.Textual (scan : Scan) : Prop where
  field : Encoded scan.field.toList
  fields : ∀ field ∈ scan.fields.toList, Encoded field
  records : ∀ record ∈ scan.records.toList.map Record.fields, ∀ field ∈ record, Encoded field

variable {scan : Scan} {delimiter byte : UInt8} {place : Place} {field : List UInt8} {fields : List (List UInt8)}
  {records : List (List (List UInt8))}

theorem Scan.Holds.textual (holds : scan.Holds place field fields records) (whole : Encoded field)
    (before : ∀ field ∈ fields, Encoded field) (completed : ∀ record ∈ records, ∀ field ∈ record, Encoded field) :
    scan.Textual := by
  obtain ⟨rfl, rfl, rfl, rfl⟩ := holds
  exact ⟨whole, before, completed⟩

theorem Scan.textual_start (here : Position) : (begin here).Textual :=
  (Scan.Holds.start here).textual .nil nofun nofun

theorem Scan.Textual.record (textual : scan.Textual) :
    ∀ record ∈ scan.records.toList.map Record.fields ++ [scan.fields.toList ++ [scan.field.toList]],
      ∀ field ∈ record, Encoded field :=
  forall_append textual.records (forall_append textual.fields textual.field)

theorem Scan.Textual.feed (textual : scan.Textual) (whole : Encoded [byte]) : (scan.feed delimiter byte).Textual := by
  have holds := scan.holds_self
  cases stepped : step delimiter scan.place byte with
  | mk next action =>
    cases action with
    | skip => exact (holds.skip stepped).textual textual.field textual.fields textual.records
    | keep => exact (holds.keep stepped).textual (textual.field.append whole) textual.fields textual.records
    | endField =>
      exact (holds.endField stepped).textual .nil (forall_append textual.fields textual.field) textual.records
    | endRecord => exact (holds.endRecord stepped).textual .nil nofun textual.record

theorem step_high (place : Place) (ascii : delimiter < 128) (high : 128 ≤ byte) :
    ∃ next, step delimiter place byte = (next, .keep) := by
  have other : ∀ special : UInt8, special < 128 → byte ≠ special := by
    rintro special low rfl
    exact absurd high (UInt8.not_le.mpr low)
  have unquoted : byte ≠ quote := other quote (by decide)
  have inLine : isLineEnd byte = false := by
    simp [isLineEnd, other carriageReturn (by decide), other lineFeed (by decide)]
  by_cases outside : place = .quoted
  · subst outside
    exact ⟨.quoted, by simp [step, unquoted]⟩
  · exact ⟨.bare, by rw [step_outside delimiter outside unquoted fun _ => inLine, bareStep_plain (other delimiter ascii) inLine]⟩

theorem Scan.Holds.scan_high {content : List UInt8} (holds : scan.Holds place field fields records) (ascii : delimiter < 128)
    (high : ∀ byte ∈ content, 128 ≤ byte) :
    ∃ after, (content.foldl (Scan.feed delimiter) scan).Holds after (field ++ content) fields records := by
  induction content generalizing scan place field with
  | nil => exact ⟨place, by rwa [List.append_nil]⟩
  | cons byte rest ih =>
    obtain ⟨next, stepped⟩ := step_high place ascii (high byte List.mem_cons_self)
    rw [List.append_cons]
    exact ih (holds.keep stepped) fun other member => high other (List.mem_cons_of_mem byte member)

theorem Scan.Textual.scan_char (textual : scan.Textual) (ascii : delimiter < 128) (c : Char) :
    ((String.utf8EncodeChar c).foldl (Scan.feed delimiter) scan).Textual := by
  have whole := encoded_char c
  rcases utf8EncodeChar_cases c with ⟨byte, single⟩ | high
  · rw [single] at whole ⊢
    exact textual.feed whole
  · obtain ⟨after, holds⟩ := scan.holds_self.scan_high ascii high
    exact holds.textual (textual.field.append whole) textual.fields textual.records

theorem Scan.Textual.scan_text (textual : scan.Textual) (ascii : delimiter < 128) (characters : List Char) :
    ((characters.flatMap String.utf8EncodeChar).foldl (Scan.feed delimiter) scan).Textual := by
  induction characters generalizing scan with
  | nil => exact textual
  | cons c rest ih =>
    rw [List.flatMap_cons, List.foldl_append]
    exact ih (textual.scan_char ascii c)

theorem Scan.Textual.finish (textual : scan.Textual) : ∀ record ∈ scan.finish, ∀ field ∈ record.fields, Encoded field :=
  Scan.forall_finish textual.record

end Delimited
end TabularQuery
