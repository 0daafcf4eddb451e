import TabularQuery.Grid
import TabularQuery.Query.Journal
import TabularQuery.Query.Options
import TabularQuery.Query.Source

/-! One query from its source to its table: load, then filter, then aggregate, then draw. The
first failure ends the query and is the last entry of its journal. -/

namespace TabularQuery

structure Report (α : Type) where
  result : Except QueryError α
  journal : List Entry

namespace Report

variable {α β : Type}

def failure (stage : Stage) (error : QueryError) : Report α :=
  ⟨.error error, [.event (.failed stage error)]⟩

/-- Later stages see only the result. -/
def andThen (report : Report α) (next : α → Report β) : Report β :=
  match report.result with
  | .error error => ⟨.error error, report.journal⟩
  | .ok value =>
    let following := next value
    ⟨following.result, report.journal ++ following.journal⟩

def events (report : Report α) : List Event := report.journal.filterMap Entry.event?

def log (report : Report α) (path : String) : List String := report.journal.map (Entry.line path)

end Report

namespace Query

/-- Loading a source, without a report to an observer. -/
def read (options : Options) (source : Source) : Except QueryError Dataset × List Entry :=
  match source with
  | .missing => (.error (.missingFile options.path), [])
  | .unreadable reason => (.error (.faultyText (.unreadable reason)), [])
  | .content bytes =>
    let loaded := Delimited.load ⟨options.delimiter, false⟩ bytes
    match loaded.dataset with
    | .error fault => (.error (.faultyText fault), loaded.ragged.map .ragged)
    | .ok dataset =>
      (.ok dataset, loaded.ragged.map .ragged ++
        [.loaded dataset.rows.length dataset.header.length])

def load (options : Options) (source : Source) : Report Dataset :=
  match read options source with
  | (.error error, notes) => ⟨.error error, notes ++ [.event (.failed .load error)]⟩
  | (.ok dataset, notes) =>
    ⟨.ok dataset, notes ++ [.event (.loaded dataset.rows.length dataset.header.length)]⟩

def filter (expression : String) (dataset : Dataset) : Report Dataset :=
  match Condition.parse expression with
  | .error error => .failure .filter error
  | .ok condition =>
    match condition.select dataset with
    | .error error => .failure .filter error
    | .ok result =>
      let before := dataset.rows.length
      let after := result.rows.length
      ⟨.ok result, [.filtered condition before after, .event (.filtered before after)]⟩

def aggregate (expression : String) (dataset : Dataset) : Report Dataset :=
  match Summary.parse expression with
  | .error error => .failure .aggregate error
  | .ok summary =>
    match summary.measure dataset with
    | .error error => .failure .aggregate error
    | .ok measure =>
      let rows := dataset.rows.length
      let notes := match measure with
        | .noData => []
        | .number value => [.aggregated summary rows value]
      ⟨.ok (Summary.asDataset measure dataset),
        notes ++ [.event (.aggregated summary.column summary.statistic rows)]⟩

/-- A stage without an expression, or with an empty one, is left out. -/
def whenGiven (stage : String → Dataset → Report Dataset) (expression : Option String)
    (dataset : Dataset) : Report Dataset :=
  match expression with
  | none => ⟨.ok dataset, []⟩
  | some expression => if expression = "" then ⟨.ok dataset, []⟩ else stage expression dataset

def gather (options : Options) (source : Source) : Report Dataset :=
  ((load options source).andThen (whenGiven filter options.condition)).andThen
    (whenGiven aggregate options.summary)

/-- Only a failure to draw is reported. -/
def draw (printer : Grid.Printer) (dataset : Dataset) : Report String :=
  match Grid.render printer dataset with
  | .error error => .failure .render error
  | .ok table => ⟨.ok table, []⟩

def run (printer : Grid.Printer) (options : Options) (source : Source) : Report String :=
  (gather options source).andThen (draw printer)

end Query
end TabularQuery
