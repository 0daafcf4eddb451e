import TabularQuery.Query.Comparison
import TabularQuery.Query.Error

/-! Conditions on one column, and the rows that meet them. A condition is written as a
column name, a comparison and a value. No comparison is a letter of a name, so the first
character that is none must be the comparison. -/

namespace TabularQuery

structure Condition where
  column : String
  comparison : Comparison
  value : String
  deriving DecidableEq

namespace Condition

def isColumnChar (c : Char) : Bool := c.isAlphanum || c == '_' || c == ' '

def isValueChar (c : Char) : Bool := isColumnChar c || c == '.'

/-- One line feed may end an expression. -/
def dropFinalLineFeed (text : List Char) : List Char :=
  if text.getLast? = some '\n' then text.dropLast else text

def parse? (expression : String) : Option Condition :=
  let body := dropFinalLineFeed expression.toList
  let column := body.takeWhile isColumnChar
  match body.dropWhile isColumnChar with
  | [] => none
  | symbol :: value =>
    if column ≠ [] ∧ value ≠ [] ∧ value.all isValueChar then
      (Comparison.ofChar? symbol).map fun comparison =>
        ⟨String.ofList column, comparison, String.ofList value⟩
    else none

def parse (expression : String) : Except QueryError Condition :=
  match parse? expression with
  | some condition => .ok condition
  | none => .error (.malformed .condition expression)

def text (condition : Condition) : String :=
  condition.column ++ String.singleton condition.comparison.symbol ++ condition.value

/-- The rows that meet the condition. The value is read as a number once. -/
def select (condition : Condition) (dataset : Dataset) : Except QueryError Dataset :=
  (dataset.resolve condition.column).map fun index =>
    let number := Literal.parse? condition.value
    dataset.keep fun row =>
      condition.comparison.holdsFor condition.value number (Row.field row index)

end Condition
end TabularQuery
