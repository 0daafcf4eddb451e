import TabularQuery.Proofs.HundredthOrder
import TabularQuery.Proofs.RowOrder

/-! Which field the least or the greatest number of a column comes from. Of the numbers that no other lies beyond it is the
first in the order of the rows, so of two zeros the earlier one. Behind the first row what is not a number is passed over. -/

namespace TabularQuery

/-- The first of some values that is a number and has this relation to every number among them. -/
structure FirstWithin (within : Binary64 → Binary64 → Prop) (values : List Binary64) (value : Binary64) : Prop where
  number : value.isNaN = false
  bound : ∀ x ∈ values, x.isNaN = false → within value x
  first : ∃ before after, values = before ++ value :: after ∧
    ∀ x ∈ before, x.isNaN = false → ¬ ∀ y ∈ values, y.isNaN = false → within x y

namespace Extreme

variable {statistic : Statistic} {comparison : Comparison} {further : Binary64 → Binary64 → Bool} {x y best : Binary64}

theorem pass (extreme : Extreme statistic comparison further) (beyond : further x best = true)
    (inside : further y best = false) (number : y.isNaN = false) : further x y = true := by
  cases extreme with
  | least =>
    obtain ⟨left, right, lower⟩ := Binary64.less_iff.mp beyond
    have above := (Binary64.atMost_iff.mp ⟨right, number, inside⟩).2.2
    exact Binary64.less_iff.mpr ⟨left, number, lower.trans_le above⟩
  | greatest =>
    obtain ⟨left, right, higher⟩ := Binary64.less_iff.mp beyond
    have below := (Binary64.atMost_iff.mp ⟨number, left, inside⟩).2.2
    exact Binary64.less_iff.mpr ⟨number, right, below.trans_lt higher⟩

/-- What is kept after some values: a number beyond which none of them lies, and which is beyond all numbers before it. -/
structure Keeps (further : Binary64 → Binary64 → Bool) (seen : List Binary64) (best : Binary64) : Prop where
  number : best.isNaN = false
  unbeaten : ∀ x ∈ seen, further x best = false
  first : ∃ before after, seen = before ++ best :: after ∧ ∀ x ∈ before, x.isNaN = false → further best x = true

theorem keeps_start (extreme : Extreme statistic comparison further) {first : Binary64} (number : first.isNaN = false) :
    Keeps further [first] first := by
  refine ⟨number, ?_, [], [], rfl, fun _ member => absurd member List.not_mem_nil⟩
  intro x member
  rw [List.mem_singleton.mp member]
  exact extreme.irrefl first

theorem Keeps.step {seen : List Binary64} (keeps : Keeps further seen best) (extreme : Extreme statistic comparison further)
    (next : Binary64) : Keeps further (seen ++ [next]) (if further next best then next else best) := by
  have level := extreme.unbeaten_step keeps.unbeaten next
  obtain ⟨number, unbeaten, before, after, rfl, first⟩ := keeps
  by_cases beyond : further next best = true
  · rw [if_pos beyond] at level ⊢
    have behind : ∀ x ∈ before ++ best :: after, x.isNaN = false → further next x = true :=
      fun x member counted => extreme.pass beyond (unbeaten x member) counted
    exact ⟨(extreme.numbers beyond).1, level, _, [], rfl, behind⟩
  · rw [if_neg beyond] at level ⊢
    have listed : (before ++ best :: after) ++ [next] = before ++ best :: (after ++ [next]) := by
      rw [List.append_assoc, List.cons_append]
    exact ⟨number, level, before, after ++ [next], listed, first⟩

theorem Keeps.run {seen : List Binary64} (keeps : Keeps further seen best) (extreme : Extreme statistic comparison further)
    (rest : List Binary64) : Keeps further (seen ++ rest) (statistic.of best rest) := by
  rw [extreme.of_eq]
  induction rest generalizing seen best with
  | nil => rwa [List.append_nil]
  | cons next rest ih =>
    rw [List.append_cons]
    exact ih (keeps.step extreme next)

theorem Keeps.firstWithin {values : List Binary64} (keeps : Keeps further values best) {within : Binary64 → Binary64 → Prop}
    (relates : ∀ {x y}, x.isNaN = false → y.isNaN = false → (within x y ↔ further y x = false)) :
    FirstWithin within values best := by
  obtain ⟨number, unbeaten, before, after, split, first⟩ := keeps
  have member : best ∈ values := by
    rw [split]
    exact List.mem_append_right before List.mem_cons_self
  refine ⟨number, fun x inside counted => (relates number counted).mpr (unbeaten x inside), before, after, split, ?_⟩
  intro x earlier counted all
  have behind := (relates counted number).mp (all best member number)
  rw [first x earlier counted] at behind
  cases behind

theorem of_filter (extreme : Extreme statistic comparison further) (first : Binary64) (rest : List Binary64) :
    statistic.of first (rest.filter fun x => !x.isNaN) = statistic.of first rest := by
  have passed : (fun best x => if (!x.isNaN) = true then if further x best then x else best else best) =
      fun best x => if further x best then x else best := by
    funext best x
    cases absent : x.isNaN with
    | false => rfl
    | true =>
      have within : further x best = false := by
        rw [Bool.eq_false_iff]
        intro beyond
        rw [(extreme.numbers beyond).1] at absent
        cases absent
      rw [within]
      rfl
  rw [extreme.of_eq, extreme.of_eq, List.foldl_filter, passed]

theorem measure_eq (extreme : Extreme statistic comparison further) {dataset : Dataset} {column : String} {index : ℕ}
    {first : Binary64} {rest others : List Binary64} (found : dataset.column? column = some index)
    (numbers : dataset.Numbers index (first :: others))
    (alike : others.filter (fun x => !x.isNaN) = rest.filter fun x => !x.isNaN) :
    (Summary.mk column statistic).measure dataset = .ok (.number (statistic.of first rest)) := by
  rw [← extreme.of_filter first rest, ← alike, extreme.of_filter]
  exact Summary.measure_eq_ok_iff.mpr ⟨index, _, found, numbers, rfl⟩

end Extreme

/-- The extremes of a column of numbers. If the first value is not a number, neither are they. Otherwise each of them is the
first number of the column that is at most, or at least, every number of it. Nothing changes with what is not a number behind
the first value. -/
theorem measure_extremes {dataset : Dataset} {column : String} {index : ℕ} (found : dataset.column? column = some index)
    (nonempty : dataset.rows ≠ []) (numeric : ∀ row ∈ dataset.rows, (Literal.parse? (Row.field row index)).isSome) :
    ∃ first rest least greatest, dataset.Numbers index (first :: rest) ∧
      (Summary.mk column .minimum).measure dataset = .ok (.number least) ∧
      (Summary.mk column .maximum).measure dataset = .ok (.number greatest) ∧
      (first.isNaN = true → least.isNaN = true ∧ greatest.isNaN = true) ∧
      (first.isNaN = false → FirstWithin Binary64.AtMost (first :: rest) least ∧
        FirstWithin (fun x y => y.AtMost x) (first :: rest) greatest) ∧
      ∀ (other : Dataset) (position : ℕ) (others : List Binary64), other.column? column = some position →
        other.Numbers position (first :: others) →
        others.filter (fun x => !x.isNaN) = rest.filter (fun x => !x.isNaN) →
        (Summary.mk column .minimum).measure other = .ok (.number least) ∧
          (Summary.mk column .maximum).measure other = .ok (.number greatest) := by
  obtain ⟨values, numbers⟩ := Dataset.exists_numbers numeric
  cases values with
  | nil => exact absurd (numbers.rows_eq_nil_iff.mpr rfl) nonempty
  | cons first rest =>
    refine ⟨first, rest, _, _, numbers, Extreme.least.measure_eq found numbers rfl,
      Extreme.greatest.measure_eq found numbers rfl, ?_, ?_, ?_⟩
    · intro absent
      rw [Extreme.least.of_absent absent, Extreme.greatest.of_absent absent]
      exact ⟨absent, absent⟩
    · intro number
      constructor
      · apply ((Extreme.least.keeps_start number).run .least rest).firstWithin
        intro x y left right
        simp [Binary64.AtMost, left, right]
      · apply ((Extreme.greatest.keeps_start number).run .greatest rest).firstWithin
        intro x y left right
        simp [Binary64.AtMost, left, right]
    · intro other position others refound renumbered alike
      exact ⟨Extreme.least.measure_eq refound renumbered alike, Extreme.greatest.measure_eq refound renumbered alike⟩

/-- Both zeros are least, and the earlier is found. What is not a number stands before them. -/
theorem measure_extremes_zeros :
    let dataset := Dataset.mk ["name", "price"] [["a", " 5 "], ["b", "nan"], ["c", "0_0"], ["d", "-0"], ["e", "1e3"]]
    dataset.column? "price" = some 1 ∧ dataset.rows ≠ [] ∧
    (∀ row ∈ dataset.rows, (Literal.parse? (Row.field row 1)).isSome) ∧
    (Summary.mk "price" .minimum).measure dataset = .ok (.number (.zero false)) ∧
    (Summary.mk "price" .maximum).measure dataset = .ok (.number (.ofNat 1000)) ∧
    FirstWithin Binary64.AtMost [.ofNat 5, .nan, .zero false, .zero true, .ofNat 1000] (.zero false) := by
  intro dataset
  have found : dataset.column? "price" = some 1 := by decide
  have nonempty : dataset.rows ≠ [] := List.cons_ne_nil _ _
  have numeric : ∀ row ∈ dataset.rows, (Literal.parse? (Row.field row 1)).isSome := by decide +kernel
  have lowest : (Summary.mk "price" .minimum).measure dataset = .ok (.number (.zero false)) := by decide +kernel
  have highest : (Summary.mk "price" .maximum).measure dataset = .ok (.number (.ofNat 1000)) := by decide +kernel
  have values : dataset.Numbers 1 [.ofNat 5, .nan, .zero false, .zero true, .ofNat 1000] := by
    unfold Dataset.Numbers
    decide +kernel
  obtain ⟨first, rest, least, greatest, numbers, measured, -, -, present, -⟩ := measure_extremes found nonempty numeric
  have same : first :: rest = [.ofNat 5, .nan, .zero false, .zero true, .ofNat 1000] :=
    (Option.some_injective _).list_map (numbers.symm.trans values)
  have zero : least = .zero false := Measure.number.inj (Except.ok.inj (measured.symm.trans lowest))
  have number : first.isNaN = false := by
    rw [(List.cons.inj same).1]
    decide +kernel
  have leads := (present number).1
  rw [same, zero] at leads
  exact ⟨found, nonempty, numeric, lowest, highest, leads⟩

end TabularQuery
