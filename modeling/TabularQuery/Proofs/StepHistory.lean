import Mathlib.Data.List.Basic
import Mathlib.Data.List.Induction
import TabularQuery.Grid.Boxes
import TabularQuery.Proofs.StageErrors
import TabularQuery.Query.Step

/-! What a run of steps keeps. The header stays as it was. Until an aggregation succeeds the rows are some of those at the
start; from then on there is at most one cell, which shows what the latest aggregation found. Steps that fail or only read
can be left out of a run without a change to what the others answer. -/

namespace TabularQuery

/-- Some of the rows of a dataset, in their order and under its header. -/
structure Dataset.Narrows (narrow wide : Dataset) : Prop where
  header : narrow.header = wide.header
  rows : narrow.rows.Sublist wide.rows

theorem Dataset.Narrows.refl (dataset : Dataset) : dataset.Narrows dataset := ⟨rfl, List.Sublist.refl _⟩

theorem Dataset.keep_narrows (dataset : Dataset) (test : Row → Bool) : (dataset.keep test).Narrows dataset :=
  ⟨rfl, List.filter_sublist⟩

theorem Condition.select_narrows {condition : Condition} {dataset result : Dataset}
    (selected : condition.select dataset = .ok result) : result.Narrows dataset := by
  obtain ⟨index, -, rfl⟩ := Except.map_eq_ok_iff.mp selected
  exact dataset.keep_narrows _

def Answer.isFailure : Answer → Bool
  | .failed _ => true
  | _ => false

namespace Step

variable {printer : Grid.Printer} {start dataset : Dataset} {steps : List Step} {step : Step}

/-- The steps that ask for something and never change the dataset. -/
def onlyReads : Step → Bool
  | .aggregateValue _ | .column _ | .values _ | .resolve _ _ | .size | .render => true
  | .filter _ | .aggregate _ | .whereField _ _ => false

/-- A step that only reads, or one whose answer is that it failed. -/
def isIdle (step : Step) (answer : Answer) : Bool := step.onlyReads || answer.isFailure

/-- An aggregation that succeeds on a dataset, and what it finds there. -/
def Aggregates (step : Step) (dataset : Dataset) (measure : Measure) : Prop :=
  ∃ expression, step = .aggregate expression ∧
    ((Summary.parse expression).bind fun summary => summary.measure dataset) = .ok measure

/-- What the latest successful aggregation of a run has found, if there was one. -/
inductive Latest (printer : Grid.Printer) (start : Dataset) : List Step → Option Measure → Prop
  | nothing : Latest printer start [] none
  | found {steps : List Step} {step : Step} {measure : Measure}
      (aggregates : step.Aggregates (runAll printer steps start).1 measure) : Latest printer start (steps ++ [step]) (some measure)
  | kept {steps : List Step} {step : Step} {last : Option Measure} (before : Latest printer start steps last)
      (other : ∀ measure, ¬ step.Aggregates (runAll printer steps start).1 measure) : Latest printer start (steps ++ [step]) last

/-- The rows that can be left of a dataset, before and after an aggregation has succeeded. -/
def Remains (start : Dataset) : Option Measure → List Row → Prop
  | none, rows => rows.Sublist start.rows
  | some measure, rows => rows = [] ∨ rows = [[measure.text]]

theorem Remains.sublist {last : Option Measure} {rows fewer : List Row} (remains : Remains start last rows)
    (sublist : fewer.Sublist rows) : Remains start last fewer := by
  cases last with
  | none => exact sublist.trans remains
  | some measure =>
    rcases remains with rfl | rfl
    · exact Or.inl (List.sublist_nil.mp sublist)
    · exact List.sublist_singleton.mp sublist

/-! What one step does. -/

theorem look_fst (dataset : Dataset) (found : Except QueryError Answer) : (look dataset found).1 = dataset := by
  cases found <;> rfl

theorem change_failed {result : Except QueryError Dataset} (failed : (change dataset result).2.isFailure = true) :
    (change dataset result).1 = dataset := by
  cases result with
  | error error => rfl
  | ok changed => cases failed

theorem change_narrows {result : Except QueryError Dataset}
    (narrows : ∀ changed, result = .ok changed → changed.Narrows dataset) : (change dataset result).1.Narrows dataset := by
  cases result with
  | error error => exact .refl dataset
  | ok changed => exact narrows changed rfl

theorem run_aggregate (printer : Grid.Printer) (expression : String) (dataset : Dataset) :
    (aggregate expression).run printer dataset =
    change dataset (((Summary.parse expression).bind fun summary => summary.measure dataset).map
      fun measure => Summary.asDataset measure dataset) := by
  simp only [run]
  cases Summary.parse expression <;> rfl

theorem run_filter_narrows (printer : Grid.Printer) (expression : String) (dataset : Dataset) :
    ((filter expression).run printer dataset).1.Narrows dataset := by
  apply change_narrows
  intro changed selected
  cases parsed : Condition.parse expression with
  | error error =>
    rw [parsed] at selected
    cases selected
  | ok condition =>
    rw [parsed] at selected
    exact Condition.select_narrows selected

theorem run_cases (printer : Grid.Printer) (step : Step) (dataset : Dataset) :
    (∃ measure, step.Aggregates dataset measure ∧ (step.run printer dataset).1 = Summary.asDataset measure dataset) ∨
      (∀ measure, ¬ step.Aggregates dataset measure) ∧ (step.run printer dataset).1.Narrows dataset := by
  cases step with
  | filter expression => exact Or.inr ⟨nofun, run_filter_narrows printer expression dataset⟩
  | whereField index value => exact Or.inr ⟨nofun, dataset.keep_narrows _⟩
  | aggregate expression =>
    rw [run_aggregate]
    cases found : (Summary.parse expression).bind fun summary => summary.measure dataset with
    | ok measure => exact Or.inl ⟨measure, ⟨expression, rfl, found⟩, rfl⟩
    | error error =>
      refine Or.inr ⟨?_, .refl dataset⟩
      rintro measure ⟨_, same, aggregated⟩
      cases same
      cases found.symm.trans aggregated
  | _ => exact Or.inr ⟨nofun, by simp only [run, look_fst]; exact .refl dataset⟩

theorem run_idle (idle : step.isIdle (step.run printer dataset).2 = true) : (step.run printer dataset).1 = dataset := by
  cases step with
  | filter | aggregate | whereField => exact change_failed idle
  | _ => exact look_fst dataset _

/-! What a run does. -/

theorem runAll_concat (printer : Grid.Printer) (steps : List Step) (step : Step) (start : Dataset) :
    (runAll printer (steps ++ [step]) start).1 = (step.run printer (runAll printer steps start).1).1 := by
  induction steps generalizing start with
  | nil => rfl
  | cons first rest ih => exact ih _

theorem runAll_remains (printer : Grid.Printer) (steps : List Step) (start : Dataset) :
    (runAll printer steps start).1.header = start.header ∧
      ∃ last, Latest printer start steps last ∧ Remains start last (runAll printer steps start).1.rows := by
  induction steps using List.reverseRecOn with
  | nil => exact ⟨rfl, none, .nothing, List.Sublist.refl _⟩
  | append_singleton steps step ih =>
    obtain ⟨header, last, latest, remains⟩ := ih
    rw [runAll_concat]
    rcases step.run_cases printer (runAll printer steps start).1 with ⟨measure, aggregates, result⟩ | ⟨other, narrows⟩
    · rw [result]
      exact ⟨header, some measure, .found aggregates, Or.inr rfl⟩
    · exact ⟨narrows.header.trans header, last, latest.kept other, remains.sublist narrows.rows⟩

/-- The steps of a run that are not idle, with their answers. -/
def effective (printer : Grid.Printer) (steps : List Step) (start : Dataset) : List (Step × Answer) :=
  (steps.zip (runAll printer steps start).2).filter fun entry => !entry.1.isIdle entry.2

theorem effective_cons (printer : Grid.Printer) (step : Step) (rest : List Step) (start : Dataset) :
    effective printer (step :: rest) start =
    if step.isIdle (step.run printer start).2 then effective printer rest (step.run printer start).1
    else (step, (step.run printer start).2) :: effective printer rest (step.run printer start).1 := by
  have zipped : (step :: rest).zip (runAll printer (step :: rest) start).2 =
      (step, (step.run printer start).2) :: rest.zip (runAll printer rest (step.run printer start).1).2 := rfl
  rw [effective, zipped, List.filter_cons]
  cases step.isIdle (step.run printer start).2 <;> rfl

/-- A run without its idle steps ends with the same dataset, and every step that is left gives its old answer. -/
theorem runAll_effective (printer : Grid.Printer) (steps : List Step) (start : Dataset) :
    runAll printer ((effective printer steps start).map Prod.fst) start =
      ((runAll printer steps start).1, (effective printer steps start).map Prod.snd) := by
  induction steps generalizing start with
  | nil => rfl
  | cons step rest ih =>
    have later := ih (step.run printer start).1
    have last : (runAll printer (step :: rest) start).1 = (runAll printer rest (step.run printer start).1).1 := rfl
    rw [effective_cons, last]
    split
    next idle =>
      rw [run_idle idle] at later ⊢
      exact later
    next =>
      simp only [List.map_cons, runAll, later]

/-- After any first steps of a run the header is that of the start. Either no aggregation has succeeded so far and the rows
are some of those at the start, in their order and as they were, or one has, and no more than one cell is left, which holds
the text of what the latest one found. A step that only reads and one that fails leave the dataset as it was, so without
all of them the others answer what they answered before. -/
theorem runAll_phases (printer : Grid.Printer) (steps : List Step) (start : Dataset) :
    (∀ count, (runAll printer (steps.take count) start).1.header = start.header ∧
      ∃ last, Latest printer start (steps.take count) last ∧
        Remains start last (runAll printer (steps.take count) start).1.rows) ∧
    (∀ (step : Step) (dataset : Dataset), step.isIdle (step.run printer dataset).2 = true →
      (step.run printer dataset).1 = dataset) ∧
    runAll printer ((effective printer steps start).map Prod.fst) start =
      ((runAll printer steps start).1, (effective printer steps start).map Prod.snd) :=
  ⟨fun count => runAll_remains printer (steps.take count) start, fun _ _ => run_idle, runAll_effective printer steps start⟩

/-- A filter can empty the one cell of an aggregation, and the next aggregation then finds no data. -/
example : (runAll Grid.boxes [.aggregate "price=max", .filter "price<5", .render, .aggregate "price=min"]
    ⟨["price"], [["7"], ["9"]]⟩).1.rows = [["No data"]] := by decide +kernel

end Step
end TabularQuery
