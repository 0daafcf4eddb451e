import TabularQuery.Delimited.Load
import TabularQuery.Proofs.ListReading

/-! Which dataset is loaded. A field is read as the text that its bytes encode, a record as the row of these texts, and in
strict loading only if it is as long as the header. The first record is the header and the others are the rows. -/

namespace TabularQuery

namespace Text

def encode (text : String) : List UInt8 := text.toUTF8.data.toList

theorem toByteArray_encode (text : String) : (encode text).toByteArray = text.toByteArray := by
  rw [encode, String.toUTF8_eq_toByteArray]
  ext1
  rw [List.data_toByteArray, Array.toArray_toList]

theorem decode_encode (text : String) : decode (encode text) = .ok text := by
  have valid : text.toByteArray.IsValidUTF8 := text.isValidUTF8
  rw [decode, toByteArray_encode, String.fromUTF8?, dif_pos valid]
  rfl

theorem decode_eq_ok_iff {bytes : List UInt8} {text : String} : decode bytes = .ok text ↔ bytes = encode text := by
  constructor
  · intro decoded
    unfold decode String.fromUTF8? at decoded
    by_cases valid : bytes.toByteArray.IsValidUTF8
    · rw [dif_pos valid] at decoded
      rw [← Except.ok.inj decoded]
      exact List.toList_data_toByteArray.symm
    · rw [dif_neg valid] at decoded
      cases decoded
  · rintro rfl
    exact decode_encode text

end Text

namespace Delimited
open Text

theorem Record.texts_eq (record : Record) (index : Nat) :
    record.texts index = (record.fields.mapIdx fun field bytes =>
      match decode bytes with
      | .ok text => .ok text
      | .error validLength => .error (.notText index record.start field validLength)).mapM id := by
  rw [texts, List.mapIdx_eq_zipIdx_map, List.mapM_map]
  rfl

theorem Record.texts_eq_ok_iff {record : Record} {index : Nat} {row : Row} :
    record.texts index = .ok row ↔ record.fields = row.map encode := by
  have pairs : List.Forall₂ (fun bytes text => id bytes = encode text) record.fields row ↔
      record.fields.map id = row.map encode := List.forall₂_map_eq_iff
  rw [List.map_id] at pairs
  rw [texts_eq, ← pairs]
  apply List.mapM_mapIdx_eq_ok_iff
  intro field bytes text
  rw [id_eq, ← decode_eq_ok_iff]
  cases decode bytes <;> simp

/-- A record that is read as a row. -/
def Record.Reads (format : Format) (columns : Nat) (record : Record) (row : Row) : Prop :=
  (format.strict = true → record.fields.length = columns) ∧ record.fields = row.map encode

theorem Record.row_eq_ok_iff {format : Format} {record : Record} {columns index : Nat} {row : Row} :
    record.row format columns index = .ok row ↔ record.Reads format columns row := by
  unfold Record.row Reads
  split
  next refused => simp [refused]
  next allowed =>
    rw [texts_eq_ok_iff, and_iff_right]
    intro strict
    by_contra other
    exact allowed ⟨strict, other⟩

variable {format : Format} {header : List String} {scanned : List Record} {rows : List Row} {dataset : Dataset}
  {bytes : List UInt8}

theorem forall₂_reads_iff {columns : Nat} : List.Forall₂ (Record.Reads format columns) scanned rows ↔
    (format.strict = true → ∀ record ∈ scanned, record.fields.length = columns) ∧
      scanned.map Record.fields = rows.map fun row => row.map encode := by
  unfold Record.Reads
  rw [List.forall₂_and_left, List.forall₂_map_eq_iff]
  apply and_congr_left
  intro _
  constructor
  · exact fun level strict record member => level record member strict
  · exact fun level record member strict => level strict record member

theorem loadRows_eq_ok_iff : (loadRows format header scanned).dataset = .ok dataset ↔
    dataset.header = header ∧ List.Forall₂ (Record.Reads format header.length) scanned dataset.rows := by
  have read : ∀ rows : List Row, (scanned.mapIdx fun index record => record.row format header.length (index + 1)).mapM id =
      .ok rows ↔ List.Forall₂ (Record.Reads format header.length) scanned rows :=
    fun rows => List.mapM_mapIdx_eq_ok_iff fun index record row => Record.row_eq_ok_iff
  obtain ⟨names, body⟩ := dataset
  simp only [loadRows, Except.map_eq_ok_iff, read, Dataset.mk.injEq]
  constructor
  · rintro ⟨rows, read, rfl, rfl⟩
    exact ⟨rfl, read⟩
  · rintro ⟨rfl, read⟩
    exact ⟨body, read, rfl, rfl⟩

/-- A dataset as it stands in the records: the first is the header and the others are the rows. -/
def Stands (scanned : List Record) (dataset : Dataset) : Prop :=
  scanned = [] ∧ dataset = ⟨[], []⟩ ∨
    scanned.map Record.fields = (dataset.header :: dataset.rows).map fun row => row.map encode

theorem load_eq_ok_iff : (load format bytes).dataset = .ok dataset ↔
    Stands (records format.delimiter bytes) dataset ∧
      (format.strict = true → ∀ record ∈ records format.delimiter bytes, record.fields.length = dataset.header.length) := by
  obtain ⟨header, rows⟩ := dataset
  unfold load Stands
  cases records format.delimiter bytes with
  | nil =>
    constructor
    · rintro ⟨⟩
      exact ⟨Or.inl ⟨rfl, rfl⟩, nofun⟩
    · rintro ⟨⟨-, ⟨⟩⟩ | ⟨⟨⟩⟩, -⟩
      rfl
  | cons first rest =>
    simp only [List.map_cons, List.cons.injEq, reduceCtorEq, false_and, false_or]
    rw [← @Record.texts_eq_ok_iff first 0]
    cases read : first.texts 0 with
    | error fault =>
      constructor
      · nofun
      · rintro ⟨⟨⟨⟩, -⟩, -⟩
    | ok names =>
      have level : first.fields.length = names.length := by
        rw [Record.texts_eq_ok_iff.mp read, List.length_map]
      dsimp only
      rw [loadRows_eq_ok_iff, forall₂_reads_iff, Except.ok.injEq, List.forall_mem_cons]
      constructor
      · rintro ⟨rfl, strict, written⟩
        exact ⟨⟨rfl, written⟩, fun narrow => ⟨level, strict narrow⟩⟩
      · rintro ⟨⟨rfl, written⟩, strict⟩
        exact ⟨rfl, fun narrow => (strict narrow).2, written⟩

theorem load_of_encoded {delimiter : UInt8}
    (written : (records delimiter bytes).map Record.fields = (header :: rows).map fun row => row.map encode) :
    (load ⟨delimiter, false⟩ bytes).dataset = .ok ⟨header, rows⟩ :=
  load_eq_ok_iff.mpr ⟨Or.inr written, nofun⟩

end Delimited

end TabularQuery
