import TabularQuery.Proofs.ComparisonTrichotomy
import TabularQuery.Proofs.HundredthOrder
import TabularQuery.Proofs.StepHistory
import TabularQuery.Proofs.SummaryOutcome

/-! A summary of the rows that a condition leaves, beside the same summary of all rows. Fewer rows hold fewer numbers, so their
extremes do not reach further, and no field that is not a number comes in. A summary can therefore only gain by a condition:
it may succeed where it failed before, or fail for a later row. -/

namespace TabularQuery

/-- The least and the greatest number that summaries of a column find. -/
structure Dataset.Spans (dataset : Dataset) (column : String) (least greatest : Binary64) : Prop where
  minimum : (Summary.mk column .minimum).measure dataset = .ok (.number least)
  maximum : (Summary.mk column .maximum).measure dataset = .ok (.number greatest)

section
variable {narrow wide : Dataset} {column : String} {index : ℕ}

theorem Dataset.Narrows.column?_eq (narrows : narrow.Narrows wide) (column : String) :
    narrow.column? column = wide.column? column := by
  rw [Dataset.column?, Dataset.column?, narrows.header]

theorem Dataset.Narrows.numbers (narrows : narrow.Narrows wide) {values : List Binary64} (numbers : wide.Numbers index values) :
    ∃ fewer, narrow.Numbers index fewer ∧ ∀ x ∈ fewer, x ∈ values := by
  obtain ⟨fewer, renumbered⟩ := Dataset.exists_numbers fun row member => numbers.numeric row (narrows.rows.subset member)
  refine ⟨fewer, renumbered, ?_⟩
  intro x among
  obtain ⟨row, member, read⟩ := renumbered.row among
  obtain ⟨y, inside, again⟩ := numbers.field (narrows.rows.subset member)
  obtain rfl := Option.some.inj (read.symm.trans again)
  exact inside

theorem Extreme.of_subset {statistic : Statistic} {comparison : Comparison} {further : Binary64 → Binary64 → Bool}
    (extreme : Extreme statistic comparison further) {first few : Binary64} {rest others : List Binary64}
    (subset : ∀ x ∈ few :: others, x ∈ first :: rest) :
    further (statistic.of few others) (statistic.of first rest) = false :=
  extreme.not_beyond first rest _ (subset _ (extreme.of_mem few others))

theorem Dataset.Numbers.spans {dataset : Dataset} {first : Binary64} {rest : List Binary64}
    (numbers : dataset.Numbers index (first :: rest)) (found : dataset.column? column = some index) :
    dataset.Spans column (Statistic.minimum.of first rest) (Statistic.maximum.of first rest) :=
  ⟨Summary.measure_eq_ok_iff.mpr ⟨index, _, found, numbers, rfl⟩, Summary.measure_eq_ok_iff.mpr ⟨index, _, found, numbers, rfl⟩⟩

theorem Dataset.Narrows.spans (narrows : narrow.Narrows wide) {values : List Binary64}
    (found : wide.column? column = some index) (numbers : wide.Numbers index values) (nonempty : narrow.rows ≠ [])
    (clean : ∀ x ∈ values, x.isNaN = false) :
    ∃ least greatest lowest highest, wide.Spans column least greatest ∧ narrow.Spans column lowest highest ∧
      least.AtMost lowest ∧ highest.AtMost greatest := by
  obtain ⟨fewer, renumbered, subset⟩ := narrows.numbers numbers
  cases fewer with
  | nil => exact absurd (renumbered.rows_eq_nil_iff.mpr rfl) nonempty
  | cons few others =>
    cases values with
    | nil => exact absurd (subset few List.mem_cons_self) List.not_mem_nil
    | cons first rest =>
      refine ⟨_, _, _, _, numbers.spans found, renumbered.spans ((narrows.column?_eq column).trans found), ?_, ?_⟩
      · have least := clean _ (Extreme.least.of_mem first rest)
        have lowest := clean _ (subset _ (Extreme.least.of_mem few others))
        exact ⟨least, lowest, Extreme.least.of_subset subset⟩
      · have greatest := clean _ (Extreme.greatest.of_mem first rest)
        have highest := clean _ (subset _ (Extreme.greatest.of_mem few others))
        exact ⟨highest, greatest, Extreme.greatest.of_subset subset⟩

theorem Dataset.Narrows.measure (narrows : narrow.Narrows wide) {summary : Summary} {measure : Measure}
    (measured : summary.measure wide = .ok measure) :
    ∃ other, summary.measure narrow = .ok other ∧ (other = .noData ↔ narrow.rows = []) := by
  obtain ⟨index, values, found, numbers, -⟩ := Summary.measure_eq_ok_iff.mp measured
  obtain ⟨fewer, renumbered, -⟩ := narrows.numbers numbers
  have again := (narrows.column?_eq summary.column).trans found
  refine ⟨_, Summary.measure_eq_ok_iff.mpr ⟨index, fewer, again, renumbered, rfl⟩, ?_⟩
  rw [renumbered.rows_eq_nil_iff]
  cases fewer <;> simp

end

theorem Condition.select_row {condition : Condition} {dataset narrowed : Dataset} {place late : ℕ} {row : Row}
    (found : dataset.column? condition.column = some place) (selected : condition.select dataset = .ok narrowed)
    (left : narrowed.rows[late]? = some row) :
    ∃ kept, (condition.positions dataset place)[late]? = some kept ∧ dataset.rows[kept]? = some row := by
  obtain rfl := Except.ok.inj ((select_positions found).symm.trans selected)
  rw [List.getElem?_map] at left
  obtain ⟨kept, listed, same⟩ := Option.map_eq_some_iff.mp left
  obtain ⟨original, stands, -⟩ := mem_positions.mp (List.mem_of_getElem? listed)
  rw [List.getD_eq_getElem?_getD, stands, Option.getD_some] at same
  subst same
  exact ⟨kept, listed, stands⟩

namespace Summary

/-- The rows that a condition leaves, and a summary of them. It succeeds where the summary of all rows does, without data
exactly if no row is left, and where the column holds only numbers the rows that are left span no more than all rows. It fails
for a field only if the summary of all rows does, and then that one reports the field of the same row or of an earlier one. -/
theorem measure_narrowed {condition : Condition} {dataset : Dataset} {place : ℕ}
    (resolves : dataset.FirstNamed condition.column place) (summary : Summary) :
    ∃ narrowed, condition.select dataset = .ok narrowed ∧
      (∀ measure, summary.measure dataset = .ok measure → ∃ other, summary.measure narrowed = .ok other ∧
        (other = .noData ↔ narrowed.rows = []) ∧
        ∀ value, other = .number value →
          (∀ index, dataset.FirstNamed summary.column index → ∀ row ∈ dataset.rows, ∀ x,
            Literal.parse? (Row.field row index) = some x → x.isNaN = false) →
          ∃ least greatest lowest highest, dataset.Spans summary.column least greatest ∧
            narrowed.Spans summary.column lowest highest ∧ least.AtMost lowest ∧ highest.AtMost greatest) ∧
      ∀ column field, summary.measure narrowed = .error (.notNumeric column field) →
        ∃ index early late kept other, dataset.FirstNamed summary.column index ∧
          summary.measure dataset = .error (.notNumeric column other) ∧ dataset.FirstUnread index early other ∧
          narrowed.FirstUnread index late field ∧ (condition.positions dataset place)[late]? = some kept ∧ early ≤ kept := by
  have found := Dataset.column?_eq_some_iff.mpr resolves
  obtain ⟨narrowed, selected⟩ : ∃ narrowed, condition.select dataset = .ok narrowed := ⟨_, Condition.select_positions found⟩
  have narrows := Condition.select_narrows selected
  refine ⟨narrowed, selected, ?_, ?_⟩
  · intro measure measured
    obtain ⟨other, remeasured, empty⟩ := narrows.measure measured
    refine ⟨other, remeasured, empty, ?_⟩
    intro value counted clean
    obtain ⟨index, values, named, numbers, -⟩ := measure_eq_ok_iff.mp measured
    apply narrows.spans named numbers
    · intro none
      cases counted.symm.trans (empty.mpr none)
    · intro x member
      obtain ⟨row, inside, read⟩ := numbers.row member
      exact clean index (Dataset.column?_eq_some_iff.mp named) row inside x read
  · intro column field failed
    rcases measure_eq_error_iff.mp failed with ⟨-, other⟩ | ⟨index, late, _, named, unread, same⟩
    · cases other
    · cases same
      rw [← Dataset.column?_eq_some_iff, narrows.column?_eq, Dataset.column?_eq_some_iff] at named
      obtain ⟨row, left, faulty⟩ := unread.row
      obtain ⟨kept, listed, stands⟩ := Condition.select_row found selected left
      have none : Literal.parse? (Row.field row index) = none := faulty ▸ unread.unread
      obtain ⟨early, other, first⟩ := Dataset.exists_firstUnread (List.mem_of_getElem? stands) none
      have measured : summary.measure dataset = .error (.notNumeric summary.column other) :=
        measure_eq_error_iff.mpr (Or.inr ⟨index, early, other, named, first, rfl⟩)
      exact ⟨index, early, late, kept, other, named, measured, first, unread, listed, first.le stands none⟩

/-- The condition keeps a field that is no number and drops an earlier one. -/
theorem measure_narrowed_faulty :
    let dataset := Dataset.mk ["name", "price"] [["b", "5"], ["a", "x"], ["c", " n/a "], ["b", "1e1"]]
    let condition := Condition.mk "name" .greater "a"
    let summary := Summary.mk "price" .average
    dataset.FirstNamed condition.column 0 ∧
    condition.select dataset = .ok ⟨dataset.header, [["b", "5"], ["c", " n/a "], ["b", "1e1"]]⟩ ∧
    summary.measure ⟨dataset.header, [["b", "5"], ["c", " n/a "], ["b", "1e1"]]⟩ = .error (.notNumeric "price" " n/a ") ∧
    ∃ (index early late kept : ℕ) (other : String), dataset.FirstNamed "price" index ∧
      summary.measure dataset = .error (.notNumeric "price" other) ∧ dataset.FirstUnread index early other ∧
      (condition.positions dataset 0)[late]? = some kept ∧ early ≤ kept := by
  intro dataset condition summary
  have resolves : dataset.FirstNamed condition.column 0 := ⟨rfl, List.not_mem_nil⟩
  have selected : condition.select dataset = .ok ⟨dataset.header, [["b", "5"], ["c", " n/a "], ["b", "1e1"]]⟩ := by
    decide +kernel
  have failed : summary.measure ⟨dataset.header, [["b", "5"], ["c", " n/a "], ["b", "1e1"]]⟩ =
      .error (.notNumeric "price" " n/a ") := by
    decide +kernel
  obtain ⟨narrowed, again, -, errors⟩ := measure_narrowed resolves summary
  obtain rfl := Except.ok.inj (selected.symm.trans again)
  obtain ⟨index, early, late, kept, other, named, measured, first, -, listed, before⟩ := errors _ _ failed
  exact ⟨resolves, selected, failed, index, early, late, kept, other, named, measured, first, listed, before⟩

end Summary
end TabularQuery
