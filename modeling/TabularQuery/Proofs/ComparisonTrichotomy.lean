import TabularQuery.Proofs.ColumnExtremes

/-! At most one of the three comparisons holds between a field and a value. Two orders take part in it, that of numbers and
that of texts, and equality is one of texts. So a field can escape all three, if it is another text for the same number or
if what is not a number takes part. -/

namespace TabularQuery

namespace Binary64

/-- One number in two encodings, of which only zero has two, or something that is not a number. -/
def Unordered (x y : Binary64) : Prop :=
  x.isNaN = true ∨ y.isNaN = true ∨ x = y ∨ x.rank = 0 ∧ y.rank = 0

theorem less_asymm {x y : Binary64} (below : x.less y = true) : y.less x = false := by
  rw [Bool.eq_false_iff]
  intro above
  exact lt_asymm (less_iff.mp below).2.2 (less_iff.mp above).2.2

theorem unordered_iff {x y : Binary64} : x.less y = false ∧ y.less x = false ↔ Unordered x y := by
  have same : x.key = y.key ↔ ¬ x.key < y.key ∧ ¬ y.key < x.key := by omega
  rw [Unordered, ← key_eq_iff, same, less, less]
  cases x.isNaN <;> cases y.isNaN <;> simp

end Binary64

namespace Comparison
open Literal

/-- Two texts for which no comparison holds: different ones for unordered numbers. -/
def Undecided (field value : String) : Prop :=
  field ≠ value ∧ ∃ x y, parse? field = some x ∧ parse? value = some y ∧ x.Unordered y

theorem holds_cases (field value : String) :
    (∃ x y, parse? field = some x ∧ parse? value = some y ∧ less.holds field value = x.less y ∧
      greater.holds field value = y.less x) ∨
    ((parse? field = none ∨ parse? value = none) ∧ less.holds field value = decide (field < value) ∧
      greater.holds field value = decide (value < field)) := by
  simp only [holds, holdsFor]
  cases parse? value with
  | none => exact Or.inr ⟨Or.inr rfl, rfl, rfl⟩
  | some bound =>
    cases parse? field with
    | none => exact Or.inr ⟨Or.inl rfl, rfl, rfl⟩
    | some x => exact Or.inl ⟨x, bound, rfl, rfl, rfl, rfl⟩

theorem equal_holds {field value : String} : equal.holds field value = true ↔ field = value := beq_iff_eq

theorem less_converse (field value : String) : less.holds field value = greater.holds value field := by
  simp only [holds, holdsFor]
  cases parse? value <;> cases parse? field <;> rfl

theorem less_irrefl (text : String) : less.holds text text = false := by
  rcases holds_cases text text with ⟨x, y, first, second, below, -⟩ | ⟨-, below, -⟩
  · rw [below, Option.some.inj (first.symm.trans second)]
    exact y.less_irrefl
  · rw [below]
    exact decide_eq_false (String.lt_irrefl text)

theorem less_asymm {field value : String} (below : less.holds field value = true) : greater.holds field value = false := by
  rcases holds_cases field value with ⟨x, y, -, -, less, greater⟩ | ⟨-, less, greater⟩
  · rw [greater]
    exact Binary64.less_asymm (less ▸ below)
  · rw [greater]
    rw [less, decide_eq_true_eq] at below
    exact decide_eq_false fun above => String.lt_irrefl field (String.lt_trans below above)

theorem holds_unique {field value : String} {first second : Comparison} (holds : first.holds field value = true)
    (other : second.holds field value = true) : first = second := by
  have exclusive : equal.holds field value = true → less.holds field value = false ∧ greater.holds field value = false := by
    intro same
    obtain rfl := equal_holds.mp same
    exact ⟨less_irrefl field, less_converse field field ▸ less_irrefl field⟩
  have ordered : less.holds field value = true → greater.holds field value = false := less_asymm
  cases first <;> cases second <;> grind

theorem undecided_iff {field value : String} :
    (∀ comparison : Comparison, comparison.holds field value = false) ↔ Undecided field value := by
  have three : (∀ comparison : Comparison, comparison.holds field value = false) ↔
      equal.holds field value = false ∧ less.holds field value = false ∧ greater.holds field value = false := by
    constructor
    · intro none
      exact ⟨none .equal, none .less, none .greater⟩
    · rintro ⟨equal, less, greater⟩ (_ | _ | _)
      exacts [less, greater, equal]
  rw [three, ← Bool.not_eq_true, equal_holds, Undecided]
  apply and_congr_right
  intro different
  rcases holds_cases field value with ⟨x, y, first, second, below, above⟩ | ⟨texts, below, above⟩
  · rw [below, above, Binary64.unordered_iff, first, second]
    constructor
    · intro unordered
      exact ⟨x, y, rfl, rfl, unordered⟩
    · rintro ⟨_, _, ⟨⟩, ⟨⟩, unordered⟩
      exact unordered
  · rw [below, above, decide_eq_false_iff_not, decide_eq_false_iff_not]
    constructor
    · rintro ⟨notLess, notGreater⟩
      rcases Std.lt_trichotomy field value with less | same | greater
      exacts [absurd less notLess, absurd same different, absurd greater notGreater]
    · rintro ⟨x, y, first, second, -⟩
      rw [first, second] at texts
      rcases texts with none | none <;> cases none

end Comparison

namespace Condition

/-- The positions of the rows that meet a condition, whose column has this index. -/
def positions (condition : Condition) (dataset : Dataset) (index : ℕ) : List ℕ :=
  (List.range dataset.rows.length).filter fun position =>
    condition.comparison.holds (Row.field (dataset.rows.getD position []) index) condition.value

theorem mem_positions {condition : Condition} {dataset : Dataset} {index position : ℕ} :
    position ∈ condition.positions dataset index ↔ ∃ row, dataset.rows[position]? = some row ∧
      condition.comparison.holds (Row.field row index) condition.value = true := by
  rw [positions, List.mem_filter, List.mem_range, List.getD_eq_getElem?_getD]
  constructor
  · rintro ⟨inside, holds⟩
    rw [List.getElem?_eq_getElem inside] at holds
    exact ⟨_, List.getElem?_eq_getElem inside, holds⟩
  · rintro ⟨row, found, holds⟩
    rw [found]
    exact ⟨(List.getElem?_eq_some_iff.mp found).1, holds⟩

private theorem filter_by_position (rows : List Row) (test : Row → Bool) :
    ((List.range rows.length).filter fun position => test (rows.getD position [])).map (fun position => rows.getD position []) =
      rows.filter test := by
  have same : (List.range rows.length).map (fun position => rows.getD position []) = rows := by
    apply List.ext_getElem
    · simp
    · intro position _ inside
      simp [List.getD_eq_getElem?_getD, List.getElem?_eq_getElem inside]
  conv_rhs => rw [← same, List.filter_map]
  rfl

theorem select_positions {condition : Condition} {dataset : Dataset} {index : ℕ}
    (found : dataset.column? condition.column = some index) : condition.select dataset =
      .ok { dataset with rows := (condition.positions dataset index).map fun position => dataset.rows.getD position [] } := by
  have kept := filter_by_position dataset.rows fun row => condition.comparison.holds (Row.field row index) condition.value
  rw [select, Dataset.resolve_eq_ok_iff.mpr found, positions, kept]
  rfl

end Condition

namespace Comparison

/-- The comparisons exclude each other and the two orders are converses. All three fail exactly for undecided texts, so
the rows that a column's conditions on a value keep are at disjoint positions, and the undecided fields are at the others. -/
theorem trichotomy (field value : String) :
    less.holds field value = greater.holds value field ∧
    (∀ first second : Comparison, first.holds field value = true → second.holds field value = true → first = second) ∧
    ((∀ comparison : Comparison, comparison.holds field value = false) ↔ Undecided field value) ∧
    ∀ (dataset : Dataset) (column : String) (index : ℕ), dataset.column? column = some index →
      let kept (comparison : Comparison) := (Condition.mk column comparison value).positions dataset index
      (∀ comparison, (Condition.mk column comparison value).select dataset =
        .ok { dataset with rows := (kept comparison).map fun position => dataset.rows.getD position [] }) ∧
      (∀ first second, first ≠ second → (kept first).Disjoint (kept second)) ∧
      ∀ position row, dataset.rows[position]? = some row →
        ((∀ comparison, position ∉ kept comparison) ↔ Undecided (Row.field row index) value) := by
  refine ⟨less_converse field value, fun first second => holds_unique, undecided_iff, ?_⟩
  intro dataset column index found kept
  refine ⟨fun comparison => Condition.select_positions found, ?_, ?_⟩
  · intro first second different position inside beside
    obtain ⟨row, present, holds⟩ := Condition.mem_positions.mp inside
    obtain ⟨other, again, holdsToo⟩ := Condition.mem_positions.mp beside
    obtain rfl := Option.some.inj (present.symm.trans again)
    exact different (holds_unique holds holdsToo)
  · intro position row present
    rw [← undecided_iff]
    apply forall_congr'
    intro comparison
    rw [Condition.mem_positions, Bool.eq_false_iff, not_iff_not]
    constructor
    · rintro ⟨_, found, holds⟩
      obtain rfl := Option.some.inj (present.symm.trans found)
      exact holds
    · intro holds
      exact ⟨row, present, holds⟩

/-- The first two fields are another text for one and what is not a number. A missing field is an empty text. -/
theorem trichotomy_one :
    let dataset := Dataset.mk ["name", "size"] [["a", " 1.0 "], ["b", "nan"], ["c", "x"], ["d"], ["e", "1"]]
    dataset.column? "size" = some 1 ∧
    (Condition.mk "size" .less "1").positions dataset 1 = [3] ∧
    (Condition.mk "size" .equal "1").positions dataset 1 = [4] ∧
    (Condition.mk "size" .greater "1").positions dataset 1 = [2] ∧
    Undecided " 1.0 " "1" ∧ Undecided "nan" "1" := by
  intro dataset
  have found : dataset.column? "size" = some 1 := by decide
  have less : (Condition.mk "size" .less "1").positions dataset 1 = [3] := by decide +kernel
  have equal : (Condition.mk "size" .equal "1").positions dataset 1 = [4] := by decide +kernel
  have greater : (Condition.mk "size" .greater "1").positions dataset 1 = [2] := by decide +kernel
  obtain ⟨-, -, -, rows⟩ := trichotomy "nan" "1"
  obtain ⟨-, -, others⟩ := rows dataset "size" 1 found
  have escaped : ∀ position < 2, ∀ comparison, position ∉ (Condition.mk "size" comparison "1").positions dataset 1 := by
    rintro position early (_ | _ | _)
    · rw [less, List.mem_singleton]
      omega
    · rw [greater, List.mem_singleton]
      omega
    · rw [equal, List.mem_singleton]
      omega
  exact ⟨found, less, equal, greater, (others 0 _ rfl).mp (escaped 0 (by omega)), (others 1 _ rfl).mp (escaped 1 (by omega))⟩

end Comparison
end TabularQuery
