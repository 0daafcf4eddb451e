import TabularQuery.Proofs.StageErrors

/-! What a summary reads: the fields of the first column of its name, each as a number. -/

namespace TabularQuery

theorem Dataset.resolve_eq_ok_iff {dataset : Dataset} {column : String} {index : Nat} :
    dataset.resolve column = .ok index ↔ dataset.column? column = some index := by
  unfold resolve
  split
  next found => simp [found]
  next absent => simp [absent]

/-- The numbers of a column, if all of its fields are numbers. -/
def Dataset.Numbers (dataset : Dataset) (index : Nat) (values : List Binary64) : Prop :=
  (dataset.columnValues index).map Literal.parse? = values.map some

section
variable {dataset : Dataset} {index : Nat} {values : List Binary64}

theorem Dataset.Numbers.field (numbers : dataset.Numbers index values) {row : Row} (member : row ∈ dataset.rows) :
    ∃ x ∈ values, Literal.parse? (Row.field row index) = some x := by
  have read : Literal.parse? (Row.field row index) ∈ (dataset.columnValues index).map Literal.parse? :=
    List.mem_map_of_mem (List.mem_map_of_mem member)
  rw [numbers] at read
  obtain ⟨x, inside, same⟩ := List.mem_map.mp read
  exact ⟨x, inside, same.symm⟩

theorem Dataset.Numbers.row (numbers : dataset.Numbers index values) {x : Binary64} (member : x ∈ values) :
    ∃ row ∈ dataset.rows, Literal.parse? (Row.field row index) = some x := by
  have written : some x ∈ values.map some := List.mem_map_of_mem member
  rw [← numbers] at written
  obtain ⟨field, among, same⟩ := List.mem_map.mp written
  obtain ⟨row, inside, rfl⟩ := List.mem_map.mp among
  exact ⟨row, inside, same⟩

theorem Dataset.Numbers.numeric (numbers : dataset.Numbers index values) :
    ∀ row ∈ dataset.rows, (Literal.parse? (Row.field row index)).isSome := by
  intro row member
  obtain ⟨x, -, read⟩ := numbers.field member
  rw [read]
  rfl

theorem Dataset.Numbers.length_eq (numbers : dataset.Numbers index values) : dataset.rows.length = values.length := by
  simpa [columnValues] using congrArg List.length numbers

theorem Dataset.Numbers.rows_eq_nil_iff (numbers : dataset.Numbers index values) : dataset.rows = [] ↔ values = [] := by
  rw [← List.length_eq_zero_iff, numbers.length_eq, List.length_eq_zero_iff]

end

namespace Summary

variable {summary : Summary} {dataset : Dataset}

theorem numbers_eq_ok_iff {fields : List String} {values : List Binary64} :
    summary.numbers fields = .ok values ↔ fields.map Literal.parse? = values.map some := by
  induction fields generalizing values with
  | nil => cases values <;> simp [numbers, pure, Except.pure]
  | cons field rest ih =>
    rw [numbers_cons]
    cases read : Literal.parse? field with
    | none => cases values <;> simp [read]
    | some x =>
      cases values with
      | nil => simp [Except.map_eq_ok_iff]
      | cons head tail =>
        simp only [Except.map_eq_ok_iff, List.map_cons, List.cons.injEq, read, Option.some.injEq]
        constructor
        · rintro ⟨others, found, rfl, rfl⟩
          exact ⟨rfl, ih.mp found⟩
        · rintro ⟨rfl, same⟩
          exact ⟨tail, ih.mpr same, rfl, rfl⟩

theorem measure_eq_ok_iff {measure : Measure} : summary.measure dataset = .ok measure ↔
    ∃ index values, dataset.column? summary.column = some index ∧ dataset.Numbers index values ∧
      measure = match values with
        | [] => .noData
        | first :: rest => .number (summary.statistic.of first rest) := by
  simp only [Summary.measure, measureFields, Except.bind_eq_ok_iff, Except.map_eq_ok_iff, Dataset.resolve_eq_ok_iff,
    numbers_eq_ok_iff]
  constructor
  · rintro ⟨index, found, values, read, rfl⟩
    exact ⟨index, values, found, read, rfl⟩
  · rintro ⟨index, values, found, read, rfl⟩
    exact ⟨index, found, values, read, rfl⟩

theorem measure_eq_number {value : Binary64} (measured : summary.measure dataset = .ok (.number value)) :
    ∃ index first rest, dataset.column? summary.column = some index ∧ dataset.Numbers index (first :: rest) ∧
      value = summary.statistic.of first rest := by
  obtain ⟨index, values, found, numbers, same⟩ := measure_eq_ok_iff.mp measured
  cases values with
  | nil => cases same
  | cons first rest => exact ⟨index, first, rest, found, numbers, Measure.number.inj same⟩

end Summary
end TabularQuery
