import TabularQuery.Delimited.Load
import TabularQuery.Text.Quoted

/-! What a query is asked to do. -/

namespace TabularQuery

structure Options where
  path : String
  condition : Option String := none
  summary : Option String := none
  delimiter : UInt8 := 44
  deriving DecidableEq

namespace Options

def describeOptional : Option String → String
  | none => "None"
  | some text => "Some(" ++ Text.quote text ++ ")"

/-- The options written out for inspection. They are the options of a query that nobody
observes. -/
def describe (options : Options) : String :=
  "QueryOptions \x7b path: " ++ Text.quote options.path ++
    ", where_expr: " ++ describeOptional options.condition ++
    ", aggregate_expr: " ++ describeOptional options.summary ++
    ", csv: CsvOptions \x7b delimiter: " ++ toString options.delimiter.toNat ++
    " \x7d, observer_set: false \x7d"

end Options
end TabularQuery
