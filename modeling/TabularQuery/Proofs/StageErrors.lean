import TabularQuery.Query.Run

/-! Why each stage of a query fails, and how many rows it leaves. A stage that reads an
expression fails because of the expression or because of the column that it names; only a
summary also looks at the fields of its column, only loading looks at the source, and only
drawing asks a printer. -/

namespace Except

variable {ε α β : Type} {result : Except ε α}

theorem map_eq_ok_iff {f : α → β} {value : β} : result.map f = .ok value ↔ ∃ a, result = .ok a ∧ f a = value := by
  cases result <;> simp [Except.map]

theorem map_eq_error_iff {f : α → β} {error : ε} : result.map f = .error error ↔ result = .error error := by
  cases result <;> simp [Except.map]

theorem bind_eq_ok_iff {f : α → Except ε β} {value : β} :
    result.bind f = .ok value ↔ ∃ a, result = .ok a ∧ f a = .ok value := by
  cases result <;> simp [Except.bind]

theorem bind_eq_error_iff {f : α → Except ε β} {error : ε} :
    result.bind f = .error error ↔ result = .error error ∨ ∃ a, result = .ok a ∧ f a = .error error := by
  cases result <;> simp [Except.bind]

end Except

namespace TabularQuery

/-- The errors that a stage can end with. An operator and an operation are refused only as part of a malformed expression. -/
def Stage.mayRaise : Stage → QueryError → Bool
  | .load, .missingFile _ | .load, .unreadable _ | .load, .faultyText _ => true
  | .filter, .malformed .condition _ | .filter, .unknownColumn _ => true
  | .aggregate, .malformed .summary _ | .aggregate, .unknownColumn _ | .aggregate, .notNumeric _ _ => true
  | .render, .undrawable _ => true
  | _, _ => false

theorem Dataset.resolve_error {dataset : Dataset} {column : String} {error : QueryError}
    (failed : dataset.resolve column = .error error) : error = .unknownColumn column := by
  unfold resolve at failed
  split at failed
  · cases failed
  · exact (Except.error.inj failed).symm

namespace Condition

theorem parse_error {expression : String} {error : QueryError} (failed : parse expression = .error error) :
    error = .malformed .condition expression := by
  unfold parse at failed
  split at failed
  · cases failed
  · exact (Except.error.inj failed).symm

theorem select_error {condition : Condition} {dataset : Dataset} {error : QueryError}
    (failed : condition.select dataset = .error error) : error = .unknownColumn condition.column :=
  Dataset.resolve_error (Except.map_eq_error_iff.mp failed)

theorem select_rows {condition : Condition} {dataset result : Dataset} (selected : condition.select dataset = .ok result) :
    result.rows.length ≤ dataset.rows.length := by
  obtain ⟨index, -, rfl⟩ := Except.map_eq_ok_iff.mp selected
  exact List.length_filter_le _ _

end Condition

namespace Summary

theorem parse_error {expression : String} {error : QueryError} (failed : parse expression = .error error) :
    error = .malformed .summary expression := by
  unfold parse at failed
  split at failed
  · cases failed
  · exact (Except.error.inj failed).symm

theorem numbers_cons (summary : Summary) (field : String) (rest : List String) :
    summary.numbers (field :: rest) =
      match Literal.parse? field with
      | some number => (summary.numbers rest).map (number :: ·)
      | none => .error (.notNumeric summary.column field) := by
  unfold numbers
  rw [List.mapM_cons]
  cases Literal.parse? field with
  | none => rfl
  | some number => rfl

theorem numbers_error {summary : Summary} {fields : List String} {error : QueryError}
    (failed : summary.numbers fields = .error error) : ∃ field ∈ fields, error = .notNumeric summary.column field := by
  induction fields with
  | nil => cases failed
  | cons field rest ih =>
    rw [numbers_cons] at failed
    split at failed
    next =>
      obtain ⟨other, member, same⟩ := ih (Except.map_eq_error_iff.mp failed)
      exact ⟨other, List.mem_cons_of_mem field member, same⟩
    next => exact ⟨field, List.mem_cons_self, (Except.error.inj failed).symm⟩

theorem measure_error {summary : Summary} {dataset : Dataset} {error : QueryError}
    (failed : summary.measure dataset = .error error) :
    error = .unknownColumn summary.column ∨ ∃ field, error = .notNumeric summary.column field := by
  rcases Except.bind_eq_error_iff.mp failed with unresolved | ⟨index, -, unread⟩
  · exact Or.inl (Dataset.resolve_error unresolved)
  · obtain ⟨field, -, same⟩ := numbers_error (Except.map_eq_error_iff.mp unread)
    exact Or.inr ⟨field, same⟩

end Summary

theorem Grid.render_error {printer : Printer} {dataset : Dataset} {error : QueryError}
    (failed : render printer dataset = .error error) : ∃ reason, error = .undrawable reason := by
  unfold render at failed
  split at failed
  next => cases failed
  next =>
    cases drawn : (printer.assemble (headings dataset) (columns dataset)).bind printer.write with
    | ok text =>
      rw [drawn] at failed
      cases failed
    | error reason =>
      rw [drawn] at failed
      exact ⟨reason, (Except.error.inj failed).symm⟩

end TabularQuery
