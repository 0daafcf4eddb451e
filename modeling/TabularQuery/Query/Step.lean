import TabularQuery.Grid
import TabularQuery.Query.Summary

/-! Sequences of operations on one dataset. An operation that fails, and one that only
reads, leaves the dataset as it was. -/

namespace TabularQuery

inductive Step
  | filter (expression : String)
  | aggregate (expression : String)
  | aggregateValue (expression : String)
  | whereField (index : Nat) (value : String)
  | column (name : String)
  | values (index : Nat)
  | resolve (grammar : Grammar) (expression : String)
  | size
  | render

inductive Answer
  | dataset (dataset : Dataset)
  | measure (measure : Measure)
  | column (found : Option (Nat × List String))
  | values (values : List String)
  | index (index : Nat)
  | size (rows columns : Nat)
  | table (text : String)
  | failed (error : QueryError)

namespace Step

def parseColumn (grammar : Grammar) (expression : String) : Except QueryError String :=
  match grammar with
  | .condition => (Condition.parse expression).map Condition.column
  | .summary => (Summary.parse expression).map Summary.column

/-- A failed change leaves the dataset. -/
def change (dataset : Dataset) (result : Except QueryError Dataset) : Dataset × Answer :=
  match result with
  | .ok changed => (changed, .dataset changed)
  | .error error => (dataset, .failed error)

def look (dataset : Dataset) (found : Except QueryError Answer) : Dataset × Answer :=
  match found with
  | .ok answer => (dataset, answer)
  | .error error => (dataset, .failed error)

def run (printer : Grid.Printer) (step : Step) (dataset : Dataset) : Dataset × Answer :=
  match step with
  | .filter expression =>
    change dataset ((Condition.parse expression).bind fun condition => condition.select dataset)
  | .aggregate expression =>
    change dataset ((Summary.parse expression).bind fun summary => summary.summarise dataset)
  | .whereField index value =>
    change dataset (.ok (dataset.keep fun row => Row.field row index == value))
  | .aggregateValue expression =>
    look dataset
      (((Summary.parse expression).bind fun summary => summary.measure dataset).map .measure)
  | .column name =>
    look dataset
      (.ok (.column ((dataset.column? name).map fun index => (index, dataset.columnValues index))))
  | .values index => look dataset (.ok (.values (dataset.columnValues index)))
  | .resolve grammar expression =>
    look dataset (((parseColumn grammar expression).bind dataset.resolve).map .index)
  | .size => look dataset (.ok (.size dataset.rows.length dataset.header.length))
  | .render => look dataset ((Grid.render printer dataset).map .table)

def runAll (printer : Grid.Printer) : List Step → Dataset → Dataset × List Answer
  | [], dataset => (dataset, [])
  | step :: rest, dataset =>
    let (next, answer) := step.run printer dataset
    let (last, answers) := runAll printer rest next
    (last, answer :: answers)

end Step
end TabularQuery
