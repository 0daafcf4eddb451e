import Mathlib.Order.Bounds.Basic
import TabularQuery.Grid.Boxes

/-! The columns in which a dataset is handed to a printer. There are as many as the longest of the header and the rows has
fields, all equally long and without missing values, so a printer that accepts columns of this kind draws every dataset. What
a row lacks stands in them as a blank field. -/

namespace TabularQuery

/-- A row with a field in each of some columns. -/
def Row.stretch (columns : Nat) (row : Row) : Row := (List.range columns).map (Row.field row)

theorem Row.field_stretch {columns : Nat} {row : Row} (complete : row.length ≤ columns) (index : Nat) :
    Row.field (row.stretch columns) index = Row.field row index := by
  rw [Row.field, stretch, List.getD_eq_getElem?_getD, List.getElem?_map]
  rcases Nat.lt_or_ge index columns with inside | beyond
  · rw [List.getElem?_range inside]
    rfl
  · rw [List.getElem?_eq_none (by rwa [List.length_range]), field, List.getD_eq_getElem?_getD,
      List.getElem?_eq_none (complete.trans beyond)]
    rfl

namespace Grid

/-- What every use of a printer relies on: columns that go together are put together as they are, and are written. -/
structure Printer.Accepts (printer : Printer) : Prop where
  assembles : ∀ batch : Batch, batch.Regular → printer.assemble batch.headings batch.columns = .ok batch
  writes : ∀ batch : Batch, batch.Regular → ∃ text, printer.write batch = .ok text

theorem boxes_accepts : boxes.Accepts where
  assembles _ regular := if_pos regular
  writes _ _ := ⟨_, rfl⟩

theorem foldl_max_isGreatest (items : List Nat) (start : Nat) :
    IsGreatest (insert start {item | item ∈ items}) (items.foldl max start) := by
  induction items generalizing start with
  | nil => simp
  | cons item items ih =>
    obtain ⟨reached, bound⟩ := ih (max start item)
    rw [List.foldl_cons]
    refine ⟨?_, ?_⟩
    · rcases reached with same | member
      · rcases le_total start item with below | above
        · rw [same, max_eq_right below]
          exact Or.inr List.mem_cons_self
        · rw [same, max_eq_left above]
          exact Or.inl rfl
      · exact Or.inr (List.mem_cons_of_mem _ member)
    · have least : max start item ≤ items.foldl max (max start item) := bound (Set.mem_insert _ _)
      rintro value (rfl | member)
      · exact (le_max_left _ _).trans least
      · rcases List.mem_cons.mp member with rfl | member
        · exact (le_max_right _ _).trans least
        · exact bound (Set.mem_insert_of_mem _ member)

section
variable {dataset : Dataset} {record : Row}

theorem across_isGreatest (dataset : Dataset) :
    IsGreatest {count | ∃ record ∈ dataset.header :: dataset.rows, record.length = count} (across dataset) := by
  have same : {count | ∃ record ∈ dataset.header :: dataset.rows, record.length = count} =
      insert dataset.header.length {count | count ∈ dataset.rows.map List.length} := by
    ext count
    simp [eq_comm]
  rw [same]
  exact foldl_max_isGreatest _ _

theorem length_le_across (member : record ∈ dataset.header :: dataset.rows) : record.length ≤ across dataset :=
  (across_isGreatest dataset).2 ⟨record, member, rfl⟩

def batch (dataset : Dataset) : Batch := ⟨headings dataset, columns dataset⟩

theorem length_of_mem_columns {column : List (Option String)} (member : column ∈ columns dataset) :
    column.length = dataset.rows.length := by
  obtain ⟨index, -, rfl⟩ := List.mem_map.mp member
  rw [List.length_map, Dataset.columnValues, List.length_map]

theorem columns_ne_nil (visible : 0 < across dataset) : columns dataset ≠ [] := by
  rw [columns, Ne, List.map_eq_nil_iff, List.range_eq_nil]
  exact visible.ne'

theorem height_batch (visible : 0 < across dataset) : (batch dataset).height = dataset.rows.length := by
  obtain ⟨first, rest, split⟩ := List.exists_cons_of_ne_nil (columns_ne_nil visible)
  have head : (batch dataset).columns.headD [] = first := congrArg (List.headD · []) split
  rw [Batch.height, head]
  exact length_of_mem_columns (by rw [split]; exact List.mem_cons_self)

theorem batch_regular (visible : 0 < across dataset) : (batch dataset).Regular where
  nonempty := columns_ne_nil visible
  matched := by rw [batch, headings, columns, List.length_map, List.length_map]
  even _ member := (length_of_mem_columns member).trans (height_batch visible).symm
  complete pair member := by
    obtain ⟨index, -, same⟩ := List.mem_map.mp (List.of_mem_zip member).2
    right
    rw [← same]
    simp

theorem titles_batch (dataset : Dataset) : (batch dataset).titles = Row.stretch (across dataset) dataset.header := by
  rw [Batch.titles, batch, headings, List.map_map]
  rfl

theorem recordsOf_fields (indices : List Nat) (rows : List Row) :
    Batch.recordsOf rows.length (indices.map fun index => (rows.map fun row => Row.field row index).map some) =
      rows.map fun row => indices.map (Row.field row) := by
  induction rows with
  | nil => rfl
  | cons row rows ih =>
    rw [List.map_cons, ← ih, List.length_cons, Batch.recordsOf, List.map_map, List.map_map]
    rfl

theorem records_batch (visible : 0 < across dataset) :
    (batch dataset).records = dataset.rows.map (Row.stretch (across dataset)) := by
  rw [Batch.records, height_batch visible]
  exact recordsOf_fields _ _

end

section
variable {printer : Printer} {dataset : Dataset}

theorem render_empty (printer : Printer) (empty : across dataset = 0) : render printer dataset = .ok "" := if_pos empty

theorem render_batch (accepts : printer.Accepts) (visible : 0 < across dataset) :
    ∃ text, printer.write (batch dataset) = .ok text ∧ render printer dataset = .ok text := by
  have regular := batch_regular visible
  obtain ⟨text, written⟩ := accepts.writes _ regular
  have assembled : printer.assemble (headings dataset) (columns dataset) = .ok (batch dataset) := accepts.assembles _ regular
  refine ⟨text, written, ?_⟩
  rw [render, if_neg visible.ne', assembled]
  show (printer.write (batch dataset)).mapError _ = _
  rw [written]
  rfl

theorem render_ok (accepts : printer.Accepts) (dataset : Dataset) : ∃ text, render printer dataset = .ok text := by
  rcases Nat.eq_zero_or_pos (across dataset) with empty | visible
  · exact ⟨"", render_empty printer empty⟩
  · obtain ⟨text, -, drawn⟩ := render_batch accepts visible
    exact ⟨text, drawn⟩

end

end Grid
end TabularQuery
