import TabularQuery.Proofs.ListReading
import TabularQuery.Proofs.SummaryOutcome

/-! Conditions that are applied one after another. Selecting rows keeps the header, so a condition finds its column, or misses
it, whatever was selected before, and it tests each row by itself. The order of the conditions and their repetitions decide
nothing, except which of several missing columns is reported. -/

namespace TabularQuery

theorem Dataset.keep_keep (dataset : Dataset) (first second : Row → Bool) :
    (dataset.keep first).keep second = dataset.keep fun row => first row && second row := by
  simp only [keep, List.filter_filter, Bool.and_comm]

namespace Condition

/-- Whether a row meets a condition under this header: its field in the first column of the name, compared with the value. -/
def meets (condition : Condition) (header : List String) (row : Row) : Bool :=
  condition.comparison.holds (Row.field row (header.idxOf condition.column)) condition.value

/-- Each condition sees the rows that the conditions before it have left. -/
def selectAll : List Condition → Dataset → Except QueryError Dataset
  | [], dataset => .ok dataset
  | condition :: rest, dataset => (condition.select dataset).bind (selectAll rest)

/-- Reading the value once for all rows and reading it for each of them is the same. -/
theorem select_of_named {condition : Condition} {dataset : Dataset} (named : condition.column ∈ dataset.header) :
    condition.select dataset = .ok (dataset.keep (condition.meets dataset.header)) := by
  obtain ⟨index, first⟩ := Dataset.exists_firstNamed named
  have found := Dataset.column?_eq_some_iff.mpr first
  have position : dataset.header.idxOf condition.column = index := (List.findIdx?_eq_some_iff_findIdx_eq.mp found).2
  have test : condition.meets dataset.header =
      fun row => condition.comparison.holds (Row.field row index) condition.value := by
    funext row
    rw [meets, position]
  rw [select, Dataset.resolve_eq_ok_iff.mpr found, test]
  rfl

theorem select_of_missing {condition : Condition} {dataset : Dataset} (missing : condition.column ∉ dataset.header) :
    condition.select dataset = .error (.unknownColumn condition.column) :=
  Except.map_eq_error_iff.mpr (Dataset.resolve_eq_error_iff.mpr ⟨missing, rfl⟩)

theorem selectAll_of_named {order : List Condition} {dataset : Dataset}
    (named : ∀ condition ∈ order, condition.column ∈ dataset.header) :
    selectAll order dataset = .ok (dataset.keep fun row => order.all fun condition => condition.meets dataset.header row) := by
  induction order generalizing dataset with
  | nil => simp [selectAll, Dataset.keep]
  | cons condition rest ih =>
    rw [List.forall_mem_cons] at named
    have later : ∀ other ∈ rest, other.column ∈ (dataset.keep (condition.meets dataset.header)).header := named.2
    rw [selectAll, select_of_named named.1, Except.bind, ih later, Dataset.keep_keep]
    rfl

/-- The first condition without its column ends the run, also if no row has come so far. -/
theorem selectAll_of_missing {before after : List Condition} {condition : Condition} {dataset : Dataset}
    (named : ∀ earlier ∈ before, earlier.column ∈ dataset.header) (missing : condition.column ∉ dataset.header) :
    selectAll (before ++ condition :: after) dataset = .error (.unknownColumn condition.column) := by
  induction before generalizing dataset with
  | nil => rw [List.nil_append, selectAll, select_of_missing missing, Except.bind]
  | cons first before ih =>
    rw [List.forall_mem_cons] at named
    rw [List.cons_append, selectAll, select_of_named named.1, Except.bind]
    exact ih named.2 missing

/-- The same conditions in any order, each at least once. If all of their columns are there, the rows that are left are those
that meet all conditions, as they were and in their order. If one is missing, a missing one is what the error tells, also
where no row is left. -/
theorem selectAll_alike {conditions order : List Condition} (same : ∀ condition, condition ∈ order ↔ condition ∈ conditions)
    (dataset : Dataset) :
    ((∀ condition ∈ conditions, condition.column ∈ dataset.header) →
      selectAll order dataset = .ok ⟨dataset.header, dataset.rows.filter fun row =>
        conditions.all fun condition => condition.meets dataset.header row⟩) ∧
    ((∃ condition ∈ conditions, condition.column ∉ dataset.header) →
      ∃ condition ∈ conditions, condition.column ∉ dataset.header ∧
        selectAll order dataset = .error (.unknownColumn condition.column)) := by
  constructor
  · intro named
    have tests : (fun row => order.all fun condition => condition.meets dataset.header row) =
        fun row => conditions.all fun condition => condition.meets dataset.header row := by
      funext row
      rw [Bool.eq_iff_iff, List.all_eq_true, List.all_eq_true]
      exact forall_congr' fun condition => imp_congr_left (same condition)
    rw [selectAll_of_named fun condition member => named condition ((same condition).mp member), tests]
    rfl
  · rintro ⟨condition, member, missing⟩
    have failing : ¬ ∀ condition ∈ order, condition.column ∈ dataset.header :=
      fun named => missing (named condition ((same condition).mpr member))
    obtain ⟨before, first, after, rfl, earlier, fails⟩ := List.exists_first_failing failing
    have among : first ∈ before ++ first :: after := List.mem_append_right before List.mem_cons_self
    exact ⟨first, (same first).mp among, fails, selectAll_of_missing earlier fails⟩

/-- Numbers and texts stand in the first column of the name. The condition on it comes between two uses of the other one. -/
theorem selectAll_alike_mixed :
    let dataset := Dataset.mk ["size", "name", "size"] [["1_0", "a"], ["x", "b"], [], ["7", "b", "1"], [" 12 ", "c"], ["3", "d"]]
    let named := Condition.mk "name" .greater "a"
    let sized := Condition.mk "size" .greater "5"
    let priced := Condition.mk "price" .less "1"
    (∀ condition, condition ∈ [named, sized, named] ↔ condition ∈ [sized, named]) ∧
    selectAll [named, sized, named] dataset = .ok ⟨dataset.header, [["x", "b"], ["7", "b", "1"], [" 12 ", "c"]]⟩ ∧
    (∀ condition, condition ∈ [priced, sized] ↔ condition ∈ [sized, priced]) ∧
    selectAll [priced, sized] ⟨dataset.header, []⟩ = .error (.unknownColumn "price") := by
  intro dataset named sized priced
  have twice : ∀ condition, condition ∈ [named, sized, named] ↔ condition ∈ [sized, named] := by
    intro condition
    simp [or_comm]
  have reversed : ∀ condition, condition ∈ [priced, sized] ↔ condition ∈ [sized, priced] := by
    intro condition
    simp [or_comm]
  have columns : ∀ condition ∈ [sized, named], condition.column ∈ dataset.header := by decide
  have kept : (dataset.rows.filter fun row => [sized, named].all fun condition => condition.meets dataset.header row) =
      [["x", "b"], ["7", "b", "1"], [" 12 ", "c"]] := by
    decide +kernel
  obtain ⟨condition, member, absent, failed⟩ := (selectAll_alike reversed ⟨dataset.header, []⟩).2 (by decide)
  refine ⟨twice, ?_, reversed, ?_⟩
  · rw [(selectAll_alike twice dataset).1 columns, kept]
  · rcases List.mem_cons.mp member with rfl | member
    · exact absurd (by decide) absent
    · obtain rfl := List.mem_singleton.mp member
      exact failed

end Condition
end TabularQuery
