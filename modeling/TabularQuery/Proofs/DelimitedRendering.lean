import TabularQuery.Delimited.Load
import TabularQuery.Proofs.RecordScan

/-! The ways to write records as delimited text, and that each of them is read back. A writer chooses for every field
whether to quote it, for every record how its line ends, and where to leave empty lines; reading undoes every choice. -/

namespace TabularQuery.Delimited

/-! What a writer may write, from fields to whole texts. -/

/-- A quote between quotes is written twice. -/
def doubled (content : List UInt8) : List UInt8 :=
  content.flatMap fun byte => if byte = quote then [quote, quote] else [byte]

/-- The bytes of a field and what they stand for. A bare field holds no delimiter and no line end and does not begin
with a quote, but quotes may follow. -/
inductive FieldText (delimiter : UInt8) : List UInt8 → List UInt8 → Prop
  | quoted (content : List UInt8) : FieldText delimiter (quote :: (doubled content ++ [quote])) content
  | bare {content : List UInt8} (plain : ∀ byte ∈ content, byte ≠ delimiter ∧ isLineEnd byte = false)
      (unquoted : content.head? ≠ some quote) : FieldText delimiter content content

/-- Fields with a delimiter between each two. -/
inductive RecordText (delimiter : UInt8) : List UInt8 → List (List UInt8) → Prop
  | last {text content : List UInt8} (written : FieldText delimiter text content) : RecordText delimiter text [content]
  | more {text content others : List UInt8} {contents : List (List UInt8)} (written : FieldText delimiter text content)
      (rest : RecordText delimiter others contents) :
      RecordText delimiter (text ++ delimiter :: others) (content :: contents)

def lineEnds : List (List UInt8) := [[carriageReturn], [lineFeed], [carriageReturn, lineFeed]]

/-- Records on lines, with empty lines anywhere between them. Only the last record may lack its line end, and a record
of one empty bare field would be an empty line. -/
inductive Rendering (delimiter : UInt8) : List UInt8 → List (List (List UInt8)) → Prop
  | done {blank : List UInt8} (empty : ∀ byte ∈ blank, isLineEnd byte = true) : Rendering delimiter blank []
  | unended {blank text : List UInt8} {record : List (List UInt8)} (empty : ∀ byte ∈ blank, isLineEnd byte = true)
      (written : RecordText delimiter text record) (visible : text ≠ []) : Rendering delimiter (blank ++ text) [record]
  | line {blank text ending rest : List UInt8} {record : List (List UInt8)} {records : List (List (List UInt8))}
      (empty : ∀ byte ∈ blank, isLineEnd byte = true) (written : RecordText delimiter text record) (visible : text ≠ [])
      (ended : ending ∈ lineEnds) (following : Rendering delimiter rest records) :
      Rendering delimiter (blank ++ text ++ ending ++ rest) (record :: records)

def byteOrderMark : List UInt8 := [0xEF, 0xBB, 0xBF]

/-- A text that happens to begin like a byte order mark needs one in front. -/
inductive Legal (delimiter : UInt8) : List UInt8 → List (List (List UInt8)) → Prop
  | marked {text : List UInt8} {records : List (List (List UInt8))} (written : Rendering delimiter text records) :
      Legal delimiter (byteOrderMark ++ text) records
  | unmarked {text : List UInt8} {records : List (List (List UInt8))} (written : Rendering delimiter text records)
      (other : ¬ byteOrderMark <+: text) : Legal delimiter text records

/-! Scanning a field from its start leaves its content in hand. -/

variable {scan : Scan} {delimiter : UInt8} {place : Place} {field : List UInt8} {fields : List (List UInt8)}
  {records : List (List (List UInt8))}

theorem scan_plain {content : List UInt8} (holds : scan.Holds .bare field fields records)
    (plain : ∀ byte ∈ content, byte ≠ delimiter ∧ isLineEnd byte = false) :
    (content.foldl (Scan.feed delimiter) scan).Holds .bare (field ++ content) fields records := by
  induction content generalizing scan field with
  | nil => rwa [List.append_nil]
  | cons byte rest ih =>
    obtain ⟨kept, inLine⟩ := plain byte List.mem_cons_self
    have next := holds.keep (bareStep_plain kept inLine)
    rw [List.append_cons]
    exact ih next fun other member => plain other (List.mem_cons_of_mem byte member)

theorem scan_doubled {content : List UInt8} (holds : scan.Holds .quoted field fields records) :
    ((doubled content).foldl (Scan.feed delimiter) scan).Holds .quoted (field ++ content) fields records := by
  induction content generalizing scan field with
  | nil => rwa [List.append_nil]
  | cons byte rest ih =>
    rw [doubled, List.flatMap_cons, List.foldl_append, List.append_cons]
    apply ih
    by_cases inner : byte = quote
    · subst inner
      have first : (scan.feed delimiter quote).Holds .afterQuote field fields records := holds.skip rfl
      exact first.keep rfl
    · rw [if_neg inner]
      exact holds.keep (by simp [step, inner])

/-- A field leaves the scanner outside quotes, and past the start of the record unless the field was written as nothing. -/
theorem FieldText.scanned {text content : List UInt8} (written : FieldText delimiter text content)
    (holds : scan.Holds place [] fields records) (before : place = .fieldStart ∨ place = .recordStart) :
    ∃ after, (text.foldl (Scan.feed delimiter) scan).Holds after content fields records ∧ after ≠ .quoted ∧
      (text = [] ∧ after = place ∨ after ≠ .recordStart) := by
  cases written with
  | quoted content =>
    have opened : (scan.feed delimiter quote).Holds .quoted [] fields records := by
      rcases before with rfl | rfl
      all_goals exact holds.skip rfl
    refine ⟨.afterQuote, ?_, by decide, Or.inr (by decide)⟩
    rw [List.foldl_cons, List.foldl_append]
    exact (scan_doubled opened).skip rfl
  | bare plain unquoted =>
    cases text with
    | nil => exact ⟨place, holds, by rcases before with rfl | rfl <;> decide, Or.inl ⟨rfl, rfl⟩⟩
    | cons byte rest =>
      obtain ⟨kept, inLine⟩ := plain byte List.mem_cons_self
      have notQuote : byte ≠ quote := by
        rintro rfl
        exact unquoted rfl
      have outside : place ≠ .quoted := by rcases before with rfl | rfl <;> decide
      have stepped := step_outside delimiter outside notQuote fun _ => inLine
      rw [bareStep_plain kept inLine] at stepped
      refine ⟨.bare, ?_, by decide, Or.inr (by decide)⟩
      exact scan_plain (holds.keep stepped) fun other member => plain other (List.mem_cons_of_mem byte member)

/-! Scanning the line of a record completes it, and scanning the lines collects the records. -/

/-- All of a record is read but its line end. -/
def Scan.Complete (scan : Scan) (record : List (List UInt8)) (records : List (List (List UInt8))) : Prop :=
  ∃ place field fields, scan.Holds place field fields records ∧ fields ++ [field] = record ∧ place ≠ .quoted ∧
    place ≠ .recordStart

/-- The line of a record may begin with nothing only where a delimiter follows. -/
theorem RecordText.scanned {text : List UInt8} {contents : List (List UInt8)} (separates : Separates delimiter)
    (written : RecordText delimiter text contents) (holds : scan.Holds place [] fields records)
    (before : place = .fieldStart ∨ place = .recordStart ∧ text ≠ []) :
    (text.foldl (Scan.feed delimiter) scan).Complete (fields ++ contents) records := by
  induction written generalizing scan place fields with
  | last written =>
    obtain ⟨after, reads, outside, begun⟩ := written.scanned holds (before.imp_right And.left)
    refine ⟨after, _, fields, reads, rfl, outside, ?_⟩
    rcases begun with ⟨nothing, rfl⟩ | begun
    · rcases before with rfl | ⟨-, something⟩
      · decide
      · exact absurd nothing something
    · exact begun
  | @more text content others contents written rest ih =>
    obtain ⟨after, reads, outside, -⟩ := written.scanned holds (before.imp_right And.left)
    have stepped := step_outside delimiter outside separates.unquoted fun _ => separates.inLine
    rw [bareStep_delimiter] at stepped
    have next := reads.endField stepped
    rw [List.foldl_append, List.foldl_cons, List.append_cons]
    exact ih next (Or.inl rfl)

theorem scan_blank {blank : List UInt8} (delimiter : UInt8) (empty : ∀ byte ∈ blank, isLineEnd byte = true)
    (holds : scan.Holds .recordStart [] [] records) :
    (blank.foldl (Scan.feed delimiter) scan).Holds .recordStart [] [] records := by
  induction blank generalizing scan with
  | nil => exact holds
  | cons byte rest ih =>
    have stepped : step delimiter .recordStart byte = (.recordStart, .skip) := by
      simp [step, empty byte List.mem_cons_self]
    exact ih (fun other member => empty other (List.mem_cons_of_mem byte member)) (holds.skip stepped)

theorem Scan.Complete.lineEnd {byte : UInt8} {record : List (List UInt8)} (separates : Separates delimiter)
    (complete : scan.Complete record records) (lineEnd : isLineEnd byte = true) :
    (scan.feed delimiter byte).Holds .recordStart [] [] (records ++ [record]) := by
  obtain ⟨place, field, fields, holds, rfl, outside, begun⟩ := complete
  have stepped := step_outside delimiter outside (isLineEnd_unquoted lineEnd) fun start => absurd start begun
  rw [bareStep_lineEnd separates lineEnd] at stepped
  exact holds.endRecord stepped

theorem Scan.Complete.ending {ending : List UInt8} {record : List (List UInt8)} (separates : Separates delimiter)
    (complete : scan.Complete record records) (ended : ending ∈ lineEnds) :
    (ending.foldl (Scan.feed delimiter) scan).Holds .recordStart [] [] (records ++ [record]) := by
  simp only [lineEnds, List.mem_cons, List.not_mem_nil, or_false] at ended
  rcases ended with rfl | rfl | rfl
  · exact complete.lineEnd separates rfl
  · exact complete.lineEnd separates rfl
  · exact (complete.lineEnd separates rfl).skip rfl

theorem Scan.Complete.finish {record : List (List UInt8)} (complete : scan.Complete record records) :
    scan.finish.map Record.fields = records ++ [record] := by
  obtain ⟨place, field, fields, holds, rfl, -, begun⟩ := complete
  exact holds.finish_within begun

theorem Rendering.scanned {text : List UInt8} {written : List (List (List UInt8))} (separates : Separates delimiter)
    (rendering : Rendering delimiter text written) (holds : scan.Holds .recordStart [] [] records) :
    (text.foldl (Scan.feed delimiter) scan).finish.map Record.fields = records ++ written := by
  induction rendering generalizing scan records with
  | done empty =>
    rw [List.append_nil]
    exact (scan_blank delimiter empty holds).finish_start
  | unended empty written visible =>
    rw [List.foldl_append]
    exact (written.scanned separates (scan_blank delimiter empty holds) (Or.inr ⟨rfl, visible⟩)).finish
  | line empty written visible ended following ih =>
    have complete := written.scanned separates (scan_blank delimiter empty holds) (Or.inr ⟨rfl, visible⟩)
    rw [List.foldl_append, List.foldl_append, List.foldl_append, List.append_cons]
    exact ih (complete.ending separates ended)

end TabularQuery.Delimited
