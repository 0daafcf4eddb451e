import TabularQuery.Query.Summary

/-! The journal of a query: events for an observer, and between them the notes of the
single operations. Each entry has one line in the log. -/

namespace TabularQuery

inductive Stage
  | load
  | filter
  | aggregate
  | render
  deriving DecidableEq

def Stage.name : Stage → String
  | .load => "Load"
  | .filter => "Filter"
  | .aggregate => "Aggregate"
  | .render => "Render"

/-- Rows are counted before an aggregation. -/
inductive Event
  | loaded (rows columns : Nat)
  | filtered (before after : Nat)
  | aggregated (column : String) (statistic : Statistic) (rows : Nat)
  | failed (stage : Stage) (error : QueryError)
  deriving DecidableEq

def Event.line (path : String) : Event → String
  | .loaded rows columns => s!"INFO [load] path={path} rows={rows} columns={columns}"
  | .filtered before after => s!"INFO [filter] path={path} rows={before}->{after}"
  | .aggregated column statistic rows =>
    s!"INFO [aggregate] path={path} column={column} op={statistic.keyword} rows={rows}"
  | .failed stage error => s!"WARN [{stage.name}] path={path} err={error.message}"

def Delimited.Ragged.line (ragged : Delimited.Ragged) : String :=
  s!"WARN row {ragged.row} has {ragged.fields} fields, header has {ragged.expected}"

inductive Entry
  | ragged (row : Delimited.Ragged)
  | loaded (rows columns : Nat)
  | filtered (condition : Condition) (before after : Nat)
  | aggregated (summary : Summary) (rows : Nat) (value : Binary64)
  | event (reported : Event)
  deriving DecidableEq

namespace Entry

def line (path : String) : Entry → String
  | .ragged row => row.line
  | .loaded rows columns => s!"DEBUG loaded {rows} rows x {columns} columns from {path}"
  | .filtered condition before after =>
    s!"DEBUG filter {condition.text}: {before} -> {after} rows"
  | .aggregated summary rows value =>
    s!"DEBUG aggregate {summary.text} over {rows} rows = {value.plain}"
  | .event reported => reported.line path

def event? : Entry → Option Event
  | .event reported => some reported
  | _ => none

end Entry
end TabularQuery
