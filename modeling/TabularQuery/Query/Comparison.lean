import TabularQuery.Number.Literal

/-! Comparing a field with a value. Equality is equality of texts. The two orders compare
numbers where both sides are numbers, and otherwise texts by code points. -/

namespace TabularQuery

inductive Comparison
  | less
  | greater
  | equal
  deriving DecidableEq

namespace Comparison

def symbol : Comparison → Char
  | .less => '<'
  | .greater => '>'
  | .equal => '='

def ofChar? (c : Char) : Option Comparison :=
  match c with
  | '<' => some .less
  | '>' => some .greater
  | '=' => some .equal
  | _ => none

def ofSymbol? (text : String) : Option Comparison :=
  match text.toList with
  | [c] => ofChar? c
  | _ => none

def holdsFor (comparison : Comparison) (value : String) (number : Option Binary64)
    (field : String) : Bool :=
  match comparison with
  | .equal => field == value
  | .less =>
    match number, Literal.parse? field with
    | some bound, some x => x.less bound
    | _, _ => decide (field < value)
  | .greater =>
    match number, Literal.parse? field with
    | some bound, some x => bound.less x
    | _, _ => decide (value < field)

def holds (comparison : Comparison) (field value : String) : Bool :=
  comparison.holdsFor value (Literal.parse? value) field

end Comparison
end TabularQuery
