import TabularQuery.Number.Decimal
import TabularQuery.Text.Blank

/-! Reading a number from the text of a field. White space around it is ignored and an
underscore may separate two digits. What remains is a signed decimal with an optional
exponent, or a word for infinity or for no number. -/

namespace TabularQuery.Literal

/-- Every underscore stands between two digits. The first argument tells whether a digit
stands just before the text. -/
def wellSeparated (afterDigit : Bool) : List Char → Bool
  | [] => true
  | c :: rest =>
    (c != '_' || (afterDigit && rest.head?.any Char.isDigit)) && wellSeparated c.isDigit rest

def splitSign : List Char → Bool × List Char
  | '-' :: rest => (true, rest)
  | '+' :: rest => (false, rest)
  | text => (false, text)

def natural? (digits : List Char) : Option Nat :=
  if digits ≠ [] ∧ digits.all Char.isDigit then some (Nat.ofDigitChars 10 digits 0) else none

def exponent? : List Char → Option Int
  | [] => some 0
  | c :: rest =>
    if c = 'e' ∨ c = 'E' then
      let (negative, digits) := splitSign rest
      (natural? digits).map fun n : Nat => if negative then -(n : Int) else n
    else none

def splitFraction : List Char → List Char × List Char
  | '.' :: after => (after.takeWhile Char.isDigit, after.dropWhile Char.isDigit)
  | text => ([], text)

/-- Digits with at most one point among or beside them, then the exponent. -/
def decimal? (text : List Char) : Option Decimal :=
  let whole := text.takeWhile Char.isDigit
  let (fraction, rest) := splitFraction (text.dropWhile Char.isDigit)
  if whole ++ fraction = [] then none
  else (exponent? rest).map fun exponent =>
    ⟨Nat.ofDigitChars 10 (whole ++ fraction) 0, exponent - fraction.length⟩

def ofPlain? (text : List Char) : Option Binary64 :=
  let (negative, body) := splitSign text
  let word := body.map Char.toLower
  if word = ['i', 'n', 'f'] ∨ word = ['i', 'n', 'f', 'i', 'n', 'i', 't', 'y'] then
    some (.infinity negative)
  else if word = ['n', 'a', 'n'] then some .nan
  else (decimal? body).map fun d => d.toBinary64 negative

def parse? (text : String) : Option Binary64 :=
  let body := Text.trim text.toList
  if wellSeparated false body then ofPlain? (body.filter (· != '_')) else none

end TabularQuery.Literal
