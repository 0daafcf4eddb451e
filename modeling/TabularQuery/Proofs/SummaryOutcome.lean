import TabularQuery.Proofs.RowOrder

/-! How a summary ends. The column is looked for first, then its fields are read from the top, and only when all of them are
numbers does it matter whether there are any. So each of four outcomes has a condition on the dataset alone. -/

namespace TabularQuery

namespace Dataset

/-- The first column of this name. -/
structure FirstNamed (dataset : Dataset) (column : String) (index : ℕ) : Prop where
  named : dataset.header[index]? = some column
  first : column ∉ dataset.header.take index

/-- The first row, by its position, whose field of a column is no number, and this field as it stands there. -/
structure FirstUnread (dataset : Dataset) (index position : ℕ) (field : String) : Prop where
  found : (dataset.columnValues index)[position]? = some field
  unread : Literal.parse? field = none
  earlier : ∀ other ∈ (dataset.columnValues index).take position, (Literal.parse? other).isSome

variable {dataset : Dataset} {column field : String} {index position : ℕ}

theorem column?_eq_some_iff : dataset.column? column = some index ↔ dataset.FirstNamed column index := by
  rw [column?, List.idxOf?_eq_some_iff]
  constructor
  · rintro ⟨inside, rfl, earlier⟩
    refine ⟨List.getElem?_eq_getElem inside, ?_⟩
    intro member
    obtain ⟨position, before, same⟩ := List.mem_take_iff_getElem.mp member
    exact earlier position (by omega) same
  · rintro ⟨named, first⟩
    obtain ⟨inside, same⟩ := List.getElem?_eq_some_iff.mp named
    refine ⟨inside, same, ?_⟩
    intro position before again
    exact first (List.mem_take_iff_getElem.mpr ⟨position, by omega, again⟩)

theorem column?_eq_none_iff : dataset.column? column = none ↔ column ∉ dataset.header := List.idxOf?_eq_none_iff

theorem exists_firstNamed (named : column ∈ dataset.header) : ∃ index, dataset.FirstNamed column index := by
  cases found : dataset.column? column with
  | none => exact absurd named (column?_eq_none_iff.mp found)
  | some index => exact ⟨index, column?_eq_some_iff.mp found⟩

theorem resolve_eq_error_iff {error : QueryError} :
    dataset.resolve column = .error error ↔ column ∉ dataset.header ∧ error = .unknownColumn column := by
  rw [← column?_eq_none_iff, resolve]
  cases dataset.column? column <;> simp [eq_comm]

theorem FirstNamed.unique {other : ℕ} (first : dataset.FirstNamed column index) (second : dataset.FirstNamed column other) :
    index = other :=
  Option.some.inj ((column?_eq_some_iff.mpr first).symm.trans (column?_eq_some_iff.mpr second))

theorem exists_firstUnread_iff : (∃ position, dataset.FirstUnread index position field) ↔
    (dataset.columnValues index).find? (fun field => (Literal.parse? field).isNone) = some field := by
  rw [List.find?_eq_some_iff_append]
  constructor
  · rintro ⟨position, found, unread, earlier⟩
    obtain ⟨inside, rfl⟩ := List.getElem?_eq_some_iff.mp found
    have cut := List.take_append_drop position (dataset.columnValues index)
    rw [List.drop_eq_getElem_cons inside] at cut
    refine ⟨Option.isNone_iff_eq_none.mpr unread, _, _, cut.symm, ?_⟩
    intro other member
    simpa using earlier other member
  · rintro ⟨unread, before, after, cut, earlier⟩
    refine ⟨before.length, ?_, Option.isNone_iff_eq_none.mp unread, ?_⟩
    · rw [cut, List.getElem?_append_right le_rfl, Nat.sub_self]
      rfl
    · rw [cut, List.take_left]
      intro other member
      simpa using earlier other member

theorem exists_firstUnread {row : Row} (member : row ∈ dataset.rows) (unread : Literal.parse? (Row.field row index) = none) :
    ∃ position field, dataset.FirstUnread index position field := by
  cases found : (dataset.columnValues index).find? (fun field => (Literal.parse? field).isNone) with
  | none =>
    have read := List.find?_eq_none.mp found _ (List.mem_map_of_mem member)
    rw [unread] at read
    exact absurd rfl read
  | some field =>
    obtain ⟨position, first⟩ := exists_firstUnread_iff.mpr found
    exact ⟨position, field, first⟩

theorem FirstUnread.row (first : dataset.FirstUnread index position field) :
    ∃ row, dataset.rows[position]? = some row ∧ Row.field row index = field := by
  have found := first.found
  rw [columnValues, List.getElem?_map] at found
  exact Option.map_eq_some_iff.mp found

theorem FirstUnread.le (first : dataset.FirstUnread index position field) {other : ℕ} {row : Row}
    (found : dataset.rows[other]? = some row) (unread : Literal.parse? (Row.field row index) = none) : position ≤ other := by
  by_contra! before
  have member : Row.field row index ∈ (dataset.columnValues index).take position := by
    apply List.mem_of_getElem?
    rw [List.getElem?_take_of_lt before, columnValues, List.getElem?_map, found]
    rfl
  have read := first.earlier _ member
  rw [unread] at read
  cases read

end Dataset

namespace Summary

variable {summary : Summary} {dataset : Dataset} {index : ℕ}

theorem numbers_eq_error_iff {fields : List String} {error : QueryError} : summary.numbers fields = .error error ↔
    ∃ field, fields.find? (fun field => (Literal.parse? field).isNone) = some field ∧
      error = .notNumeric summary.column field := by
  induction fields with
  | nil => simp [numbers, pure, Except.pure]
  | cons field rest ih =>
    rw [numbers_cons, List.find?_cons]
    cases Literal.parse? field with
    | none => simp [eq_comm]
    | some x => simpa [Except.map_eq_error_iff] using ih

theorem measure_eq_error_iff {error : QueryError} : summary.measure dataset = .error error ↔
    summary.column ∉ dataset.header ∧ error = .unknownColumn summary.column ∨
      ∃ index position field, dataset.FirstNamed summary.column index ∧ dataset.FirstUnread index position field ∧
        error = .notNumeric summary.column field := by
  rw [Summary.measure, Except.bind_eq_error_iff, Dataset.resolve_eq_error_iff]
  apply or_congr_right
  simp only [measureFields, Except.map_eq_error_iff, numbers_eq_error_iff, Dataset.resolve_eq_ok_iff,
    Dataset.column?_eq_some_iff, ← Dataset.exists_firstUnread_iff]
  constructor
  · rintro ⟨index, named, field, ⟨position, first⟩, same⟩
    exact ⟨index, position, field, named, first, same⟩
  · rintro ⟨index, position, field, named, first, same⟩
    exact ⟨index, named, field, ⟨position, first⟩, same⟩

theorem measure_eq_noData_iff : summary.measure dataset = .ok .noData ↔ summary.column ∈ dataset.header ∧ dataset.rows = [] := by
  rw [measure_eq_ok_iff]
  constructor
  · rintro ⟨index, values, found, numbers, same⟩
    have named := (Dataset.column?_eq_some_iff.mp found).named
    cases values with
    | nil => exact ⟨List.mem_of_getElem? named, numbers.rows_eq_nil_iff.mpr rfl⟩
    | cons first rest => cases same
  · rintro ⟨named, empty⟩
    obtain ⟨index, first⟩ := Dataset.exists_firstNamed named
    refine ⟨index, [], Dataset.column?_eq_some_iff.mpr first, ?_, rfl⟩
    simp [Dataset.Numbers, Dataset.columnValues, empty]

theorem exists_measure_eq_number_iff (named : dataset.FirstNamed summary.column index) :
    (∃ value, summary.measure dataset = .ok (.number value)) ↔
      dataset.rows ≠ [] ∧ ∀ row ∈ dataset.rows, (Literal.parse? (Row.field row index)).isSome := by
  have found := Dataset.column?_eq_some_iff.mpr named
  constructor
  · rintro ⟨value, measured⟩
    obtain ⟨other, first, rest, again, numbers, -⟩ := measure_eq_number measured
    obtain rfl := Option.some.inj (found.symm.trans again)
    exact ⟨fun empty => absurd (numbers.rows_eq_nil_iff.mp empty) (List.cons_ne_nil first rest), numbers.numeric⟩
  · rintro ⟨nonempty, numeric⟩
    obtain ⟨values, numbers⟩ := Dataset.exists_numbers numeric
    cases values with
    | nil => exact absurd (numbers.rows_eq_nil_iff.mpr rfl) nonempty
    | cons first rest => exact ⟨_, measure_eq_ok_iff.mpr ⟨index, first :: rest, found, numbers, rfl⟩⟩

/-- A summary of a column that is missing fails for that, whatever the rows are. Otherwise it is one of the first column of
this name. It fails exactly if a field of that column is no number, and reports the first such field as it stands. It has no
data exactly if there are no rows, and in all other cases it finds a number. The result takes the place of all rows, and a
failure leaves none. -/
theorem measure_outcome (summary : Summary) (dataset : Dataset) :
    (∀ column, summary.measure dataset = .error (.unknownColumn column) ↔
      column = summary.column ∧ summary.column ∉ dataset.header) ∧
    (summary.column ∈ dataset.header → ∃ index, dataset.FirstNamed summary.column index ∧
      ((∃ column field, summary.measure dataset = .error (.notNumeric column field)) ↔
        ∃ row ∈ dataset.rows, Literal.parse? (Row.field row index) = none) ∧
      (∀ error, summary.measure dataset = .error error →
        ∃ position field, dataset.FirstUnread index position field ∧ error = .notNumeric summary.column field) ∧
      (summary.measure dataset = .ok .noData ↔ dataset.rows = []) ∧
      ((∃ value, summary.measure dataset = .ok (.number value)) ↔
        dataset.rows ≠ [] ∧ ∀ row ∈ dataset.rows, (Literal.parse? (Row.field row index)).isSome)) ∧
    (∀ error, summary.summarise dataset = .error error ↔ summary.measure dataset = .error error) ∧
    ∀ result, summary.summarise dataset = .ok result ↔
      ∃ measure, summary.measure dataset = .ok measure ∧ result = ⟨dataset.header, [[measure.text]]⟩ := by
  refine ⟨?_, ?_, fun error => Except.map_eq_error_iff, ?_⟩
  · intro column
    rw [measure_eq_error_iff]
    constructor
    · rintro (⟨missing, same⟩ | ⟨_, _, _, _, _, other⟩)
      · exact ⟨QueryError.unknownColumn.inj same, missing⟩
      · cases other
    · rintro ⟨rfl, missing⟩
      exact Or.inl ⟨missing, rfl⟩
  · intro present
    obtain ⟨index, named⟩ := Dataset.exists_firstNamed present
    have failed : ∀ error, summary.measure dataset = .error error ↔
        ∃ position field, dataset.FirstUnread index position field ∧ error = .notNumeric summary.column field := by
      intro error
      rw [measure_eq_error_iff]
      constructor
      · rintro (⟨missing, -⟩ | ⟨other, position, field, again, unread, same⟩)
        · exact absurd present missing
        · obtain rfl := named.unique again
          exact ⟨position, field, unread, same⟩
      · rintro ⟨position, field, unread, same⟩
        exact Or.inr ⟨index, position, field, named, unread, same⟩
    refine ⟨index, named, ?_, fun error => (failed error).mp, ?_, exists_measure_eq_number_iff named⟩
    · constructor
      · rintro ⟨column, field, measured⟩
        obtain ⟨position, other, unread, -⟩ := (failed _).mp measured
        obtain ⟨row, found, rfl⟩ := unread.row
        exact ⟨row, List.mem_of_getElem? found, unread.unread⟩
      · rintro ⟨row, member, none⟩
        obtain ⟨position, field, unread⟩ := Dataset.exists_firstUnread member none
        exact ⟨_, _, (failed _).mpr ⟨position, field, unread, rfl⟩⟩
    · rw [measure_eq_noData_iff, and_iff_right present]
  · intro result
    rw [summarise, Except.map_eq_ok_iff]
    simp only [asDataset, eq_comm]

/-- The second column of the name is not read, and the numbers before the faulty field do not count. -/
example : (Summary.mk "price" .average).measure
    ⟨["name", "price", "price"], [["a", "1_0", "x"], ["b", " n/a ", "2"], ["c"]]⟩ = .error (.notNumeric "price" " n/a ") := by
  decide +kernel

end Summary
end TabularQuery
