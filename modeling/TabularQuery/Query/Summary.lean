import TabularQuery.Number.Cents
import TabularQuery.Number.Notation
import TabularQuery.Query.Condition

/-! One number for a column of numbers. A summary is written as a column name and the
name of a statistic. A column with a field that is no number has no summary, and a column
without fields has a placeholder for one. -/

namespace TabularQuery

inductive Statistic
  | minimum
  | average
  | maximum
  deriving DecidableEq

namespace Statistic

def keyword : Statistic → String
  | .minimum => "min"
  | .average => "avg"
  | .maximum => "max"

def ofKeyword? (text : String) : Option Statistic :=
  match text with
  | "min" => some .minimum
  | "avg" => some .average
  | "max" => some .maximum
  | _ => none

/-- Of equal extremes the first is taken. Averages are rounded to two places. -/
def of (statistic : Statistic) (first : Binary64) (rest : List Binary64) : Binary64 :=
  match statistic with
  | .minimum => rest.foldl (fun least x => if x.less least then x else least) first
  | .maximum => rest.foldl (fun greatest x => if greatest.less x then x else greatest) first
  | .average =>
    ((Binary64.sum (first :: rest)).divide (.ofNat (rest.length + 1))).roundHundredths

end Statistic

inductive Measure
  | noData
  | number (value : Binary64)
  deriving DecidableEq

def Measure.text : Measure → String
  | .noData => "No data"
  | .number value => value.display

structure Summary where
  column : String
  statistic : Statistic
  deriving DecidableEq

namespace Summary

def parse? (expression : String) : Option Summary :=
  let body := Condition.dropFinalLineFeed expression.toList
  let column := body.takeWhile (· != '=')
  match body.dropWhile (· != '=') with
  | [] => none
  | _ :: keyword =>
    if column ≠ [] ∧ column.all Condition.isColumnChar then
      (Statistic.ofKeyword? (String.ofList keyword)).map fun statistic =>
        ⟨String.ofList column, statistic⟩
    else none

def parse (expression : String) : Except QueryError Summary :=
  match parse? expression with
  | some summary => .ok summary
  | none => .error (.malformed .summary expression)

def text (summary : Summary) : String := summary.column ++ "=" ++ summary.statistic.keyword

def numbers (summary : Summary) (fields : List String) : Except QueryError (List Binary64) :=
  fields.mapM fun field =>
    match Literal.parse? field with
    | some number => .ok number
    | none => .error (.notNumeric summary.column field)

def measureFields (summary : Summary) (fields : List String) : Except QueryError Measure :=
  (summary.numbers fields).map fun
    | [] => .noData
    | first :: rest => .number (summary.statistic.of first rest)

def measure (summary : Summary) (dataset : Dataset) : Except QueryError Measure :=
  (dataset.resolve summary.column).bind fun index =>
    summary.measureFields (dataset.columnValues index)

/-- What a summary finds, as the only field of a dataset under the header it came from. -/
def asDataset (measure : Measure) (dataset : Dataset) : Dataset :=
  { dataset with rows := [[measure.text]] }

def summarise (summary : Summary) (dataset : Dataset) : Except QueryError Dataset :=
  (summary.measure dataset).map fun measure => asDataset measure dataset

end Summary
end TabularQuery
