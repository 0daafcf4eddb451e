import TabularQuery.Proofs.ColumnNumbers
import TabularQuery.Proofs.NumberRoundTrip

/-! The least and the greatest number of a column, and the condition on this column that asks for anything beyond. The
extreme goes into the condition as text, and what is not a number takes part: it lies beyond nothing, and nothing lies
beyond it. -/

namespace TabularQuery

/-- A statistic that looks for an extreme, the comparison that asks for what is further out, and the numbers that are. -/
inductive Extreme : Statistic → Comparison → (Binary64 → Binary64 → Bool) → Prop
  | least : Extreme .minimum .less Binary64.less
  | greatest : Extreme .maximum .greater fun x y => y.less x

namespace Binary64

theorem less_iff {x y : Binary64} : x.less y = true ↔ x.isNaN = false ∧ y.isNaN = false ∧ x.key < y.key := by
  simp [less, and_assoc]

theorem key_eq_iff {x y : Binary64} : x.key = y.key ↔ x = y ∨ x.rank = 0 ∧ y.rank = 0 := by
  constructor
  · intro same
    unfold key at same
    cases left : x.negative <;> cases right : y.negative <;>
      simp only [left, right, if_true, Bool.false_eq_true, if_false] at same
    case false.false | true.true => exact Or.inl (ext_rank (left.trans right.symm) (by omega))
    case false.true | true.false => exact Or.inr (by omega)
  · rintro (rfl | ⟨left, right⟩)
    · rfl
    · simp [key, left, right]

theorem less_irrefl (x : Binary64) : x.less x = false := by
  simp [less]

theorem less_nan (x : Binary64) : x.less nan = false := by
  simp [less]

theorem nan_less (x : Binary64) : nan.less x = false := by
  simp [less]

end Binary64

namespace Extreme

variable {statistic : Statistic} {comparison : Comparison} {further : Binary64 → Binary64 → Bool}

theorem of_eq (extreme : Extreme statistic comparison further) (first : Binary64) (rest : List Binary64) :
    statistic.of first rest = rest.foldl (fun best x => if further x best then x else best) first := by
  cases extreme <;> rfl

theorem irrefl (extreme : Extreme statistic comparison further) (x : Binary64) : further x x = false := by
  cases extreme <;> exact x.less_irrefl

theorem nan (extreme : Extreme statistic comparison further) (x : Binary64) : further x .nan = false := by
  cases extreme with
  | least => exact x.less_nan
  | greatest => exact x.nan_less

theorem recede (extreme : Extreme statistic comparison further) {x best other : Binary64} (beyond : further x best = true)
    (inside : further other best = false) : further other x = false := by
  rw [Bool.eq_false_iff] at inside ⊢
  intro outside
  apply inside
  cases extreme with
  | least =>
    obtain ⟨-, number, lower⟩ := Binary64.less_iff.mp beyond
    obtain ⟨other, -, lowest⟩ := Binary64.less_iff.mp outside
    exact Binary64.less_iff.mpr ⟨other, number, lowest.trans lower⟩
  | greatest =>
    obtain ⟨number, -, higher⟩ := Binary64.less_iff.mp beyond
    obtain ⟨-, other, highest⟩ := Binary64.less_iff.mp outside
    exact Binary64.less_iff.mpr ⟨number, other, higher.trans highest⟩

theorem holdsFor (extreme : Extreme statistic comparison further) {field : String} {x : Binary64}
    (read : Literal.parse? field = some x) (value : String) (bound : Binary64) :
    comparison.holdsFor value (some bound) field = further x bound := by
  cases extreme <;> simp only [Comparison.holdsFor, read]

/-- What is kept moves only further out, so nothing that was seen comes to lie beyond it. -/
theorem unbeaten_step (extreme : Extreme statistic comparison further) {seen : List Binary64} {best : Binary64}
    (held : ∀ x ∈ seen, further x best = false) (next : Binary64) :
    ∀ x ∈ seen ++ [next], further x (if further next best then next else best) = false := by
  intro x member
  rw [List.mem_append, List.mem_singleton] at member
  split
  next beyond =>
    rcases member with before | rfl
    · exact extreme.recede beyond (held x before)
    · exact extreme.irrefl x
  next within =>
    rcases member with before | rfl
    · exact held x before
    · exact Bool.eq_false_iff.mpr within

theorem unbeaten (extreme : Extreme statistic comparison further) {seen rest : List Binary64} {best : Binary64}
    (held : ∀ x ∈ seen, further x best = false) :
    ∀ x ∈ seen ++ rest, further x (statistic.of best rest) = false := by
  rw [extreme.of_eq]
  induction rest generalizing seen best with
  | nil => simpa using held
  | cons next rest ih =>
    rw [List.append_cons]
    exact ih (extreme.unbeaten_step held next)

theorem of_mem (extreme : Extreme statistic comparison further) (first : Binary64) (rest : List Binary64) :
    statistic.of first rest ∈ first :: rest := by
  rw [extreme.of_eq]
  induction rest generalizing first with
  | nil => exact List.mem_singleton_self first
  | cons next rest ih =>
    rw [List.foldl_cons]
    rcases List.mem_cons.mp (ih (if further next first then next else first)) with same | later
    · rw [same]
      split <;> simp
    · exact List.mem_cons_of_mem _ (List.mem_cons_of_mem _ later)

theorem not_beyond (extreme : Extreme statistic comparison further) (first : Binary64) (rest : List Binary64) :
    ∀ x ∈ first :: rest, further x (statistic.of first rest) = false := by
  have held : ∀ x ∈ [first], further x first = false := by
    intro x member
    rw [List.mem_singleton.mp member]
    exact extreme.irrefl first
  exact extreme.unbeaten held

end Extreme

/-- A column with an extreme has no row that meets the condition for anything beyond the text of this extreme. Without
anything that is not a number in the column, the text reads as the number of one of its fields. -/
theorem select_beyond_extreme {statistic : Statistic} {comparison : Comparison} {further : Binary64 → Binary64 → Bool}
    {column : String} {dataset : Dataset} {value : Binary64} (extreme : Extreme statistic comparison further)
    (measured : (Summary.mk column statistic).measure dataset = .ok (.number value)) :
    (Condition.mk column comparison (Measure.number value).text).select dataset = .ok { dataset with rows := [] } ∧
    ((∀ index, dataset.column? column = some index → ∀ row ∈ dataset.rows, ∀ x,
        Literal.parse? (Row.field row index) = some x → x.isNaN = false) →
      ∃ index, dataset.column? column = some index ∧ ∃ row ∈ dataset.rows, ∃ x,
        Literal.parse? (Row.field row index) = some x ∧ Literal.parse? (Measure.number value).text = some x) := by
  obtain ⟨index, first, rest, found, numbers, rfl⟩ := Summary.measure_eq_number measured
  have reread : Literal.parse? (Measure.number (statistic.of first rest)).text =
      some (if (statistic.of first rest).isNaN then .nan else statistic.of first rest) := Binary64.parse?_display _
  constructor
  · have resolved : dataset.resolve column = .ok index := Dataset.resolve_eq_ok_iff.mpr found
    simp only [Condition.select, resolved, Except.map, Dataset.keep, reread]
    congr 2
    rw [List.filter_eq_nil_iff]
    intro row member
    obtain ⟨x, inside, read⟩ := numbers.field member
    rw [extreme.holdsFor read]
    split
    next => simp [extreme.nan]
    next => simp [extreme.not_beyond first rest x inside]
  · intro clean
    obtain ⟨row, member, read⟩ := numbers.row (extreme.of_mem first rest)
    rw [clean index found row member _ read] at reread
    exact ⟨index, found, row, member, _, read, reread⟩

/-- The greatest of these is first read from a text with white space and a separator, and written without them. -/
theorem select_beyond_extreme_price :
    (Summary.mk "price" .maximum).measure ⟨["name", "price"], [["a", "-0.0"], ["b", " 1_000 "], ["c", "1e3"]]⟩ =
      .ok (.number (.ofNat 1000)) ∧
    (Condition.mk "price" .greater "1000.0").select ⟨["name", "price"], [["a", "-0.0"], ["b", " 1_000 "], ["c", "1e3"]]⟩ =
      .ok ⟨["name", "price"], []⟩ ∧
    ∃ row ∈ [["a", "-0.0"], ["b", " 1_000 "], ["c", "1e3"]], ∃ x,
      Literal.parse? (Row.field row 1) = some x ∧ Literal.parse? "1000.0" = some x := by
  have measured : (Summary.mk "price" .maximum).measure
      ⟨["name", "price"], [["a", "-0.0"], ["b", " 1_000 "], ["c", "1e3"]]⟩ = .ok (.number (.ofNat 1000)) := by
    decide +kernel
  have text : (Measure.number (.ofNat 1000)).text = "1000.0" := by decide +kernel
  have clean : ∀ row ∈ [["a", "-0.0"], ["b", " 1_000 "], ["c", "1e3"]],
      (Literal.parse? (Row.field row 1)).all (fun x => !x.isNaN) = true := by
    decide +kernel
  obtain ⟨selected, reached⟩ := select_beyond_extreme .greatest measured
  rw [text] at selected reached
  refine ⟨measured, selected, ?_⟩
  obtain ⟨index, found, reached⟩ := reached fun index found row member x read => by
    cases found
    simpa [read] using clean row member
  cases found
  exact reached

end TabularQuery
