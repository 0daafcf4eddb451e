import TabularQuery.Delimited.Load

/-! Why a query stops, and in which words this is reported. -/

namespace TabularQuery

inductive Grammar
  | condition
  | summary
  deriving DecidableEq

def Grammar.usage : Grammar → String
  | .condition =>
    "--where expects the format \"column<op>value\"; supported operators are <, >, ="
  | .summary => "--aggregate expects the format \"column=value\"; value can be min, avg, max"

/-- Expressions and fields are reported as they were given. An operator or an operation is
named when it is refused on its own, apart from an expression. -/
inductive QueryError
  | missingFile (path : String)
  | unreadable (reason : String)
  | faultyText (fault : Delimited.Fault)
  | malformed (grammar : Grammar) (expression : String)
  | unknownColumn (column : String)
  | unsupportedOperator (operator : String)
  | unsupportedOperation (operation : String)
  | notNumeric (column : String) (field : String)
  | undrawable (reason : String)
  deriving DecidableEq

namespace QueryError

def message : QueryError → String
  | .missingFile path => s!"file {path} not found"
  | .unreadable reason => s!"io error: {reason}"
  | .faultyText fault => "csv error: " ++ fault.message
  | .malformed grammar expression => s!"invalid expression '{expression}': {grammar.usage}"
  | .unknownColumn column => s!"column {column} not found"
  | .unsupportedOperator operator => s!"operator {operator} is not supported"
  | .unsupportedOperation operation => s!"operation {operation} is not supported"
  | .notNumeric column field =>
    s!"aggregation is supported only for numbers: column '{column}' has value '{field}'"
  | .undrawable reason => s!"render error: {reason}"

def exitCode (_ : QueryError) : UInt8 := 1

end QueryError

def Dataset.resolve (dataset : Dataset) (column : String) : Except QueryError Nat :=
  match dataset.column? column with
  | some index => .ok index
  | none => .error (.unknownColumn column)

end TabularQuery
