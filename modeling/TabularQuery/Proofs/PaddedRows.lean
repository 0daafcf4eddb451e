import Mathlib.Data.List.Forall2
import TabularQuery.Grid.Boxes
import TabularQuery.Query.Step

/-! A row that is too short counts as one with empty fields after it. Two datasets that differ
only in such fields, up to the length of the header, cannot be told apart: every operation
gives the same answer on both, and whatever it makes of them differs only in this way again. -/

namespace TabularQuery

/-- The second row is the first with empty fields after it, which reach no further than a number of columns. -/
def Row.Pads (columns : Nat) (short long : Row) : Prop :=
  ∃ count, long = short ++ List.replicate count "" ∧ (count = 0 ∨ short.length + count ≤ columns)

theorem Row.Pads.refl (columns : Nat) (row : Row) : Row.Pads columns row row := ⟨0, by simp, Or.inl rfl⟩

theorem Row.Pads.field {columns : Nat} {short long : Row} (pads : Row.Pads columns short long) (index : Nat) :
    Row.field short index = Row.field long index := by
  obtain ⟨count, rfl, -⟩ := pads
  simp only [Row.field, List.getD_eq_getElem?_getD]
  rcases Nat.lt_or_ge index short.length with inside | beyond
  · rw [List.getElem?_append_left inside]
  · rw [List.getElem?_append_right beyond, List.getElem?_eq_none beyond, List.getElem?_replicate]
    split
    · rfl
    · rfl

namespace Dataset

structure Pads (short long : Dataset) : Prop where
  header : short.header = long.header
  rows : List.Forall₂ (Row.Pads short.header.length) short.rows long.rows

variable {short long : Dataset}

theorem Pads.refl (dataset : Dataset) : dataset.Pads dataset :=
  ⟨rfl, List.forall₂_same.mpr fun row _ => Row.Pads.refl _ row⟩

/-- What only the fields of a row tell is the same for both rows. -/
def FieldsOnly {α : Type} (observe : Row → α) : Prop :=
  ∀ first second : Row, (∀ index, Row.field first index = Row.field second index) → observe first = observe second

theorem Pads.map_rows {α : Type} {observe : Row → α} (pads : short.Pads long) (blind : FieldsOnly observe) :
    short.rows.map observe = long.rows.map observe := by
  have rows := pads.rows
  generalize short.rows = before at *
  generalize long.rows = after at *
  induction rows with
  | nil => rfl
  | cons row _ ih => rw [List.map_cons, List.map_cons, blind _ _ row.field, ih]

theorem Pads.columnValues (pads : short.Pads long) (index : Nat) : short.columnValues index = long.columnValues index :=
  pads.map_rows fun _ _ same => same index

theorem Pads.keep {test : Row → Bool} (pads : short.Pads long) (blind : FieldsOnly test) :
    (short.keep test).Pads (long.keep test) := by
  refine ⟨pads.header, ?_⟩
  apply List.rel_filter _ pads.rows
  intro first second row
  simp only [blind first second row.field]

theorem Pads.resolve (pads : short.Pads long) (column : String) : short.resolve column = long.resolve column := by
  rw [Dataset.resolve, Dataset.resolve, column?, column?, pads.header]

theorem Pads.measure (pads : short.Pads long) (summary : Summary) : summary.measure short = summary.measure long := by
  rw [Summary.measure, Summary.measure, pads.resolve]
  simp only [pads.columnValues]

/-- Padding stays below the length of the header, so the widest of header and rows is as wide as before. -/
theorem Pads.across (pads : short.Pads long) : Grid.across short = Grid.across long := by
  rw [Grid.across, Grid.across, ← pads.header]
  have widest : ∀ start, short.header.length ≤ start →
      (short.rows.map List.length).foldl max start = (long.rows.map List.length).foldl max start := by
    have rows := pads.rows
    generalize short.header.length = columns at *
    generalize short.rows = before at *
    generalize long.rows = after at *
    induction rows with
    | nil => exact fun _ _ => rfl
    | cons row _ ih =>
      intro start wide
      obtain ⟨count, rfl, bounded⟩ := row
      rw [List.map_cons, List.map_cons, List.foldl_cons, List.foldl_cons, List.length_append, List.length_replicate]
      rcases bounded with rfl | bounded
      · exact ih _ (by omega)
      · rw [Nat.max_eq_left (by omega), Nat.max_eq_left (by omega)]
        exact ih _ wide
  exact widest _ (Nat.le_refl _)

theorem Pads.render (pads : short.Pads long) (printer : Grid.Printer) : Grid.render printer short = Grid.render printer long := by
  have headings : Grid.headings short = Grid.headings long := by
    rw [Grid.headings, Grid.headings, pads.across, pads.header]
  have columns : Grid.columns short = Grid.columns long := by
    rw [Grid.columns, Grid.columns, pads.across]
    simp only [pads.columnValues]
  rw [Grid.render, Grid.render, pads.across, headings, columns]

end Dataset

/-- What can be done with a dataset, once the conditions and summaries are at hand. A condition need not be one that an
expression can spell: its value may be empty, as a missing field is. -/
inductive Operation
  | filter (condition : Condition)
  | whereField (index : Nat) (value : String)
  | aggregate (summary : Summary)
  | aggregateValue (summary : Summary)
  | values (index : Nat)
  | render

namespace Operation

def run (printer : Grid.Printer) (operation : Operation) (dataset : Dataset) : Dataset × Answer :=
  match operation with
  | .filter condition => Step.change dataset (condition.select dataset)
  | .whereField index value => Step.change dataset (.ok (dataset.keep fun row => Row.field row index == value))
  | .aggregate summary => Step.change dataset (summary.summarise dataset)
  | .aggregateValue summary => Step.look dataset ((summary.measure dataset).map .measure)
  | .values index => Step.look dataset (.ok (.values (dataset.columnValues index)))
  | .render => Step.look dataset ((Grid.render printer dataset).map .table)

/-- Each operation finds the dataset that those before it have left. -/
def runAll (printer : Grid.Printer) : List Operation → Dataset → Dataset × List Answer
  | [], dataset => (dataset, [])
  | operation :: rest, dataset =>
    let (next, answer) := operation.run printer dataset
    let (last, answers) := runAll printer rest next
    (last, answer :: answers)

end Operation

/-- Answers that differ at most in the padding of a dataset. -/
def Answer.Agrees : Answer → Answer → Prop
  | .dataset short, .dataset long => short.Pads long
  | answer, other => answer = other

theorem Answer.Agrees.refl (answer : Answer) : answer.Agrees answer := by
  cases answer with
  | dataset dataset => exact Dataset.Pads.refl dataset
  | _ => rfl

/-- The datasets after an operation and its answers on both sides. -/
def Corresponds (first second : Dataset × Answer) : Prop := first.1.Pads second.1 ∧ first.2.Agrees second.2

section
variable {short long : Dataset}

theorem corresponds_look (pads : short.Pads long) {found other : Except QueryError Answer} (same : found = other) :
    Corresponds (Step.look short found) (Step.look long other) := by
  subst same
  cases found with
  | ok answer => exact ⟨pads, .refl answer⟩
  | error error => exact ⟨pads, rfl⟩

theorem corresponds_change {α : Type} (pads : short.Pads long) (found : Except QueryError α) {first second : α → Dataset}
    (padded : ∀ value, (first value).Pads (second value)) :
    Corresponds (Step.change short (found.map first)) (Step.change long (found.map second)) := by
  cases found with
  | ok value => exact ⟨padded value, padded value⟩
  | error error => exact ⟨pads, rfl⟩

theorem Operation.run_corresponds (printer : Grid.Printer) (operation : Operation) (pads : short.Pads long) :
    Corresponds (operation.run printer short) (operation.run printer long) := by
  cases operation with
  | filter condition =>
    simp only [run, Condition.select, pads.resolve]
    apply corresponds_change pads
    intro index
    apply pads.keep
    intro first second same
    simp only [same]
  | whereField index value =>
    have kept : (short.keep fun row => Row.field row index == value).Pads (long.keep fun row => Row.field row index == value) := by
      apply pads.keep
      intro first second same
      simp only [same]
    exact ⟨kept, kept⟩
  | aggregate summary =>
    simp only [run, Summary.summarise, pads.measure]
    apply corresponds_change pads
    intro measure
    simp only [Summary.asDataset, pads.header]
    exact .refl _
  | aggregateValue summary => exact corresponds_look pads (congrArg _ (pads.measure summary))
  | values index => exact corresponds_look pads (by rw [pads.columnValues])
  | render => exact corresponds_look pads (by rw [pads.render])

/-- A step that is written as an expression fails alike on both sides or does the operation that it spells. -/
theorem Step.run_corresponds (printer : Grid.Printer) (step : Step) (pads : short.Pads long) :
    Corresponds (step.run printer short) (step.run printer long) := by
  have resolved : short.resolve = long.resolve := funext pads.resolve
  cases step with
  | filter expression =>
    simp only [run]
    cases Condition.parse expression with
    | error error => exact ⟨pads, rfl⟩
    | ok condition => exact (Operation.filter condition).run_corresponds printer pads
  | aggregate expression =>
    simp only [run]
    cases Summary.parse expression with
    | error error => exact ⟨pads, rfl⟩
    | ok summary => exact (Operation.aggregate summary).run_corresponds printer pads
  | aggregateValue expression =>
    simp only [run]
    cases Summary.parse expression with
    | error error => exact ⟨pads, rfl⟩
    | ok summary => exact (Operation.aggregateValue summary).run_corresponds printer pads
  | whereField index value => exact (Operation.whereField index value).run_corresponds printer pads
  | values index => exact (Operation.values index).run_corresponds printer pads
  | render => exact Operation.render.run_corresponds printer pads
  | column name =>
    apply corresponds_look pads
    simp only [Dataset.column?, pads.header, pads.columnValues]
  | resolve grammar expression => exact corresponds_look pads (by rw [resolved])
  | size => exact corresponds_look pads (by rw [pads.rows.length_eq, pads.header])

/-- Two runs that end with a dataset and the same one padded, and whose answers agree one by one. -/
structure Lockstep (first second : Dataset × List Answer) : Prop where
  dataset : first.1.Pads second.1
  rows : first.1.rows.length = second.1.rows.length
  answers : List.Forall₂ Answer.Agrees first.2 second.2

theorem Lockstep.begin (pads : short.Pads long) : Lockstep (short, []) (long, []) :=
  ⟨pads, pads.rows.length_eq, .nil⟩

theorem Lockstep.cons {first second : Dataset × List Answer} {answer other : Answer} (agrees : answer.Agrees other)
    (rest : Lockstep first second) : Lockstep (first.1, answer :: first.2) (second.1, other :: second.2) :=
  ⟨rest.dataset, rest.rows, .cons agrees rest.answers⟩

/-- Whatever is done with two datasets of which one is the other padded up to the header, by operations or by steps that
spell them, no answer tells them apart, and what is left is again one dataset and the same one padded. -/
theorem runAll_padded (pads : short.Pads long) (printer : Grid.Printer) :
    (∀ operations : List Operation,
      Lockstep (Operation.runAll printer operations short) (Operation.runAll printer operations long)) ∧
    ∀ steps : List Step, Lockstep (Step.runAll printer steps short) (Step.runAll printer steps long) := by
  constructor
  · intro operations
    induction operations generalizing short long with
    | nil => exact .begin pads
    | cons operation rest ih =>
      obtain ⟨next, answer⟩ := operation.run_corresponds printer pads
      exact (ih next).cons answer
  · intro steps
    induction steps generalizing short long with
    | nil => exact .begin pads
    | cons step rest ih =>
      obtain ⟨next, answer⟩ := step.run_corresponds printer pads
      exact (ih next).cons answer

/-- The missing price meets a condition that only an empty field meets, and then it is reported as no number. The row that
is longer than the header is not padded. -/
theorem runAll_padded_price :
    Dataset.Pads ⟨["name", "price"], [["a"], ["b", "10"], ["c", "7", "x"], []]⟩
      ⟨["name", "price"], [["a", ""], ["b", "10"], ["c", "7", "x"], [""]]⟩ ∧
    Lockstep
      (Operation.runAll Grid.boxes
        [.render, .filter ⟨"price", .equal, ""⟩, .aggregate ⟨"price", .minimum⟩, .values 0, .render]
        ⟨["name", "price"], [["a"], ["b", "10"], ["c", "7", "x"], []]⟩)
      (Operation.runAll Grid.boxes
        [.render, .filter ⟨"price", .equal, ""⟩, .aggregate ⟨"price", .minimum⟩, .values 0, .render]
        ⟨["name", "price"], [["a", ""], ["b", "10"], ["c", "7", "x"], [""]]⟩) := by
  have pads : Dataset.Pads ⟨["name", "price"], [["a"], ["b", "10"], ["c", "7", "x"], []]⟩
      ⟨["name", "price"], [["a", ""], ["b", "10"], ["c", "7", "x"], [""]]⟩ :=
    ⟨rfl, .cons ⟨1, rfl, Or.inr (by decide)⟩ (.cons ⟨0, rfl, Or.inl rfl⟩ (.cons ⟨0, rfl, Or.inl rfl⟩
      (.cons ⟨1, rfl, Or.inr (by decide)⟩ .nil)))⟩
  exact ⟨pads, (runAll_padded pads Grid.boxes).1 _⟩

end

end TabularQuery
