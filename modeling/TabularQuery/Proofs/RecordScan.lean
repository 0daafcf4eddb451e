import TabularQuery.Delimited.Record

/-! What a scan has in hand besides its positions, and what each byte does to it. Whatever the scanner has read, the next
byte is skipped, kept, or ends a field or a record; the lemmas here say so once for the proofs about whole texts. -/

namespace TabularQuery.Delimited

structure Scan.Holds (scan : Scan) (place : Place) (field : List UInt8) (fields : List (List UInt8))
    (records : List (List (List UInt8))) : Prop where
  place : scan.place = place
  field : scan.field.toList = field
  fields : scan.fields.toList = fields
  records : scan.records.toList.map Record.fields = records

namespace Scan.Holds

variable {scan : Scan} {delimiter byte : UInt8} {place next : Place} {field : List UInt8} {fields : List (List UInt8)}
  {records : List (List (List UInt8))}

theorem start (here : Position) : (begin here).Holds .recordStart [] [] [] := ⟨rfl, rfl, rfl, rfl⟩

theorem skip (holds : scan.Holds place field fields records) (stepped : step delimiter place byte = (next, .skip)) :
    (scan.feed delimiter byte).Holds next field fields records := by
  obtain ⟨rfl, rfl, rfl, rfl⟩ := holds
  simp only [feed, stepped]
  exact ⟨rfl, rfl, rfl, rfl⟩

theorem keep (holds : scan.Holds place field fields records) (stepped : step delimiter place byte = (next, .keep)) :
    (scan.feed delimiter byte).Holds next (field ++ [byte]) fields records := by
  obtain ⟨rfl, rfl, rfl, rfl⟩ := holds
  simp only [feed, stepped]
  exact ⟨rfl, Array.toList_push, rfl, rfl⟩

theorem endField (holds : scan.Holds place field fields records) (stepped : step delimiter place byte = (next, .endField)) :
    (scan.feed delimiter byte).Holds next [] (fields ++ [field]) records := by
  obtain ⟨rfl, rfl, rfl, rfl⟩ := holds
  simp only [feed, stepped]
  exact ⟨rfl, rfl, Array.toList_push, rfl⟩

theorem ended (holds : scan.Holds place field fields records) :
    scan.endRecord.Holds place [] [] (records ++ [fields ++ [field]]) := by
  obtain ⟨rfl, rfl, rfl, rfl⟩ := holds
  exact ⟨rfl, rfl, rfl, by simp [Scan.endRecord, Scan.endField]⟩

theorem endRecord (holds : scan.Holds place field fields records) (stepped : step delimiter place byte = (next, .endRecord)) :
    (scan.feed delimiter byte).Holds next [] [] (records ++ [fields ++ [field]]) := by
  obtain ⟨rfl, rfl, rfl, rfl⟩ := holds
  simp only [feed, stepped]
  exact ended ⟨rfl, rfl, rfl, rfl⟩

theorem finish_start (holds : scan.Holds .recordStart field fields records) : scan.finish.map Record.fields = records := by
  rw [finish, if_pos holds.place]
  exact holds.records

theorem finish_within (holds : scan.Holds place field fields records) (begun : place ≠ .recordStart) :
    scan.finish.map Record.fields = records ++ [fields ++ [field]] := by
  rw [finish, if_neg (holds.place ▸ begun)]
  exact holds.ended.records

end Scan.Holds

section
variable {scan : Scan}

theorem Scan.holds_self (scan : Scan) :
    scan.Holds scan.place scan.field.toList scan.fields.toList (scan.records.toList.map Record.fields) :=
  ⟨rfl, rfl, rfl, rfl⟩

theorem forall_append {α : Type} {property : α → Prop} {items : List α} {item : α}
    (all : ∀ other ∈ items, property other) (last : property item) : ∀ other ∈ items ++ [item], property other := by
  intro other member
  rcases List.mem_append.mp member with inside | final
  · exact all other inside
  · rwa [List.mem_singleton.mp final]

theorem Scan.forall_finish {property : List (List UInt8) → Prop}
    (all : ∀ record ∈ scan.records.toList.map Record.fields ++ [scan.fields.toList ++ [scan.field.toList]], property record) :
    ∀ record ∈ scan.finish, property record.fields := by
  have holds := scan.holds_self
  intro record member
  have listed : record.fields ∈ scan.finish.map Record.fields := List.mem_map_of_mem member
  by_cases idle : scan.place = .recordStart
  · rw [idle] at holds
    rw [holds.finish_start] at listed
    exact all record.fields (List.mem_append_left _ listed)
  · rw [holds.finish_within idle] at listed
    exact all record.fields listed

/-! Every record has a field. -/

def Scan.Filled (scan : Scan) : Prop := ∀ fields ∈ scan.records.toList.map Record.fields, fields ≠ []

theorem Scan.Filled.record (filled : scan.Filled) :
    ∀ fields ∈ scan.records.toList.map Record.fields ++ [scan.fields.toList ++ [scan.field.toList]], fields ≠ [] :=
  forall_append filled (List.concat_ne_nil _ _)

theorem Scan.Filled.feed (filled : scan.Filled) (delimiter byte : UInt8) : (scan.feed delimiter byte).Filled := by
  have holds := scan.holds_self
  unfold Filled
  cases stepped : step delimiter scan.place byte with
  | mk next action =>
    cases action with
    | skip =>
      rw [(holds.skip stepped).records]
      exact filled
    | keep =>
      rw [(holds.keep stepped).records]
      exact filled
    | endField =>
      rw [(holds.endField stepped).records]
      exact filled
    | endRecord =>
      rw [(holds.endRecord stepped).records]
      exact filled.record

theorem records_filled (delimiter : UInt8) (bytes : List UInt8) : ∀ record ∈ records delimiter bytes, record.fields ≠ [] := by
  have scanned : ∀ here (bytes : List UInt8), (bytes.foldl (Scan.feed delimiter) (Scan.begin here)).Filled := by
    intro here bytes
    apply List.foldlRecOn
    · exact fun _ member => absurd member List.not_mem_nil
    · exact fun scan filled byte _ => filled.feed delimiter byte
  unfold records
  split
  next rest => exact Scan.forall_finish (scanned _ rest).record
  next => exact Scan.forall_finish (scanned _ bytes).record

end

/-! Outside quotes only delimiters, line ends and quotes are special, at almost every place alike. -/

/-- A delimiter that no other byte of the format stands for. -/
structure Separates (delimiter : UInt8) : Prop where
  unquoted : delimiter ≠ quote
  inLine : isLineEnd delimiter = false

theorem isLineEnd_unquoted {byte : UInt8} (lineEnd : isLineEnd byte = true) : byte ≠ quote := by
  rintro rfl
  cases lineEnd

theorem Separates.not_lineEnd {delimiter byte : UInt8} (separates : Separates delimiter) (lineEnd : isLineEnd byte = true) :
    byte ≠ delimiter := by
  rintro rfl
  rw [separates.inLine] at lineEnd
  cases lineEnd

/-- Outside quotes a byte that is no quote means the same everywhere, but at the start of a record a line end is passed. -/
theorem step_outside {place : Place} {byte : UInt8} (delimiter : UInt8) (outside : place ≠ .quoted) (unquoted : byte ≠ quote)
    (counts : place = .recordStart → isLineEnd byte = false) : step delimiter place byte = bareStep delimiter byte := by
  cases place with
  | recordStart => simp [step, fieldStep, unquoted, counts rfl]
  | fieldStart => simp [step, fieldStep, unquoted]
  | bare => rfl
  | quoted => exact absurd rfl outside
  | afterQuote => simp [step, unquoted]

theorem bareStep_delimiter (delimiter : UInt8) : bareStep delimiter delimiter = (.fieldStart, .endField) := by
  simp [bareStep]

theorem bareStep_lineEnd {delimiter byte : UInt8} (separates : Separates delimiter) (lineEnd : isLineEnd byte = true) :
    bareStep delimiter byte = (.recordStart, .endRecord) := by
  simp [bareStep, separates.not_lineEnd lineEnd, lineEnd]

theorem bareStep_plain {delimiter byte : UInt8} (kept : byte ≠ delimiter) (inLine : isLineEnd byte = false) :
    bareStep delimiter byte = (.bare, .keep) := by
  simp [bareStep, kept, inLine]

end TabularQuery.Delimited
