import TabularQuery.Proofs.DelimitedRendering
import TabularQuery.Proofs.LoadedRecords

/-! A dataset written as delimited text in any legal way loads as the same dataset. -/

namespace TabularQuery

namespace Delimited

theorem Legal.records_eq {delimiter : UInt8} {bytes : List UInt8} {written : List (List (List UInt8))}
    (separates : Separates delimiter) (legal : Legal delimiter bytes written) :
    (records delimiter bytes).map Record.fields = written := by
  cases legal with
  | marked rendering => exact rendering.scanned separates (Scan.Holds.start _)
  | unmarked rendering other =>
    unfold records
    split
    next rest => exact absurd (List.prefix_append byteOrderMark rest) other
    next => exact rendering.scanned separates (Scan.Holds.start _)

/-! Everything can be written: quotes take any field. -/

theorem exists_recordText {record : List (List UInt8)} (delimiter : UInt8) (nonempty : record ≠ []) :
    ∃ text, RecordText delimiter text record ∧ text ≠ [] := by
  induction record with
  | nil => exact absurd rfl nonempty
  | cons content rest ih =>
    cases rest with
    | nil => exact ⟨_, .last (.quoted content), List.cons_ne_nil _ _⟩
    | cons next rest =>
      obtain ⟨others, written, -⟩ := ih (List.cons_ne_nil _ _)
      exact ⟨_, .more (.quoted content) written, List.cons_ne_nil _ _⟩

theorem exists_rendering {records : List (List (List UInt8))} (delimiter : UInt8)
    (nonempty : ∀ record ∈ records, record ≠ []) : ∃ text, Rendering delimiter text records := by
  induction records with
  | nil => exact ⟨_, .done (fun _ member => absurd member List.not_mem_nil)⟩
  | cons record records ih =>
    obtain ⟨rest, following⟩ := ih fun other member => nonempty other (List.mem_cons_of_mem record member)
    obtain ⟨text, written, visible⟩ := exists_recordText delimiter (nonempty record List.mem_cons_self)
    have ended : [lineFeed] ∈ lineEnds := by decide
    exact ⟨_, .line (fun _ member => absurd member List.not_mem_nil) written visible ended following⟩

/-- A header and rows of at least one field each can be written as delimited text, and however they are legally written
they load as they were. -/
theorem load_of_legal {delimiter : UInt8} {header : List String} {rows : List Row} (unquoted : delimiter ≠ quote)
    (inLine : delimiter ≠ carriageReturn ∧ delimiter ≠ lineFeed) (columns : header ≠ []) (cells : ∀ row ∈ rows, row ≠ []) :
    (∃ bytes, Legal delimiter bytes ((header :: rows).map fun row => row.map Text.encode)) ∧
      ∀ bytes, Legal delimiter bytes ((header :: rows).map fun row => row.map Text.encode) →
        (load ⟨delimiter, false⟩ bytes).dataset = .ok ⟨header, rows⟩ := by
  constructor
  · have nonempty : ∀ record ∈ (header :: rows).map fun row => row.map Text.encode, record ≠ [] := by
      intro record member
      obtain ⟨row, listed, rfl⟩ := List.mem_map.mp member
      rw [Ne, List.map_eq_nil_iff]
      rcases List.mem_cons.mp listed with rfl | below
      · exact columns
      · exact cells row below
    obtain ⟨text, written⟩ := exists_rendering delimiter nonempty
    exact ⟨_, .marked written⟩
  · intro bytes legal
    have separates : Separates delimiter := ⟨unquoted, by simp [isLineEnd, inLine]⟩
    exact load_of_encoded (legal.records_eq separates)

/-- The delimiter is a byte of the letter in the header, which is quoted for it. A quote stands in a bare field and a line
end in a quoted one, the lines end in three ways, and a byte order mark and empty lines stand around them. -/
theorem load_of_legal_mixed : (load ⟨0xA9, false⟩ [0xEF, 0xBB, 0xBF, 10, 34, 0xC3, 0xA9, 34, 0xA9, 97, 34, 98, 13, 10, 13, 34, 34,
    13, 34, 120, 10, 121, 34, 0xA9]).dataset = .ok ⟨["é", "a\"b"], [[""], ["x\ny", ""]]⟩ := by
  have none : ∀ byte ∈ ([] : List UInt8), isLineEnd byte = true := nofun
  have feed : ∀ byte ∈ [lineFeed], isLineEnd byte = true := List.all_eq_true.mp rfl
  have returned : ∀ byte ∈ [carriageReturn], isLineEnd byte = true := List.all_eq_true.mp rfl
  have header : RecordText 0xA9 [34, 0xC3, 0xA9, 34, 0xA9, 97, 34, 98] [[0xC3, 0xA9], [97, 34, 98]] :=
    .more (.quoted [0xC3, 0xA9]) (.last (.bare (by simp [isLineEnd, carriageReturn, lineFeed]) (by decide)))
  have first : RecordText 0xA9 [34, 34] [[]] := .last (.quoted [])
  have second : RecordText 0xA9 [34, 120, 10, 121, 34, 0xA9] [[120, 10, 121], []] :=
    .more (.quoted [120, 10, 121]) (.last (.bare nofun (by decide)))
  have both : [carriageReturn, lineFeed] ∈ lineEnds := by decide
  have one : [carriageReturn] ∈ lineEnds := by decide
  have written := Rendering.line feed header (by decide) both
    (.line returned first (by decide) one (.unended none second (by decide)))
  exact (load_of_legal (by decide) (by decide) (by decide) (by decide)).2 _ (.marked written)

end Delimited

end TabularQuery
