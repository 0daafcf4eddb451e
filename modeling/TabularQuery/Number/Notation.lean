import TabularQuery.Number.Shortest

/-! How numbers are written. A result is written with at least one fractional digit, and
with an exponent when it is very small or very large; a log line writes every digit in
place. Both use the fewest digits that read back. -/

namespace TabularQuery

namespace Decimal

def leadingExponent (d : Decimal) : Int :=
  d.exponent + ((Nat.toDigits 10 d.coefficient).length - 1 : Int)

/-- Every digit in its place, and no point in a whole number. -/
def positional (d : Decimal) : List Char :=
  let digits := Nat.toDigits 10 d.coefficient
  match d.exponent with
  | .ofNat zeros => digits ++ List.replicate zeros '0'
  | .negSucc places =>
    let padded := List.replicate (places + 2 - digits.length) '0' ++ digits
    padded.take (padded.length - (places + 1)) ++ '.' :: padded.drop (padded.length - (places + 1))

/-- One digit before the point, no point after a single digit, and an exponent whose sign is
written only if it is negative. -/
def scientific (d : Decimal) : List Char :=
  let digits := Nat.toDigits 10 d.coefficient
  let exponent := Nat.toDigits 10 d.leadingExponent.natAbs
  digits.take 1 ++ (if digits.length = 1 then [] else '.' :: digits.drop 1) ++
    'e' :: (if d.leadingExponent < 0 then '-' :: exponent else exponent)

/-- Decimals from 10⁻⁴ to below 10¹⁶ are written in place. -/
def compact (d : Decimal) : List Char :=
  if -4 ≤ d.leadingExponent ∧ d.leadingExponent < 16 then
    if d.exponent < 0 then d.positional else d.positional ++ ['.', '0']
  else d.scientific

end Decimal

namespace Binary64

def signed (x : Binary64) (digits : List Char) : List Char :=
  if x.negative then '-' :: digits else digits

def compact (x : Binary64) : List Char :=
  x.signed (if x.rank = 0 then ['0', '.', '0'] else x.shortest.compact)

def splitExponent : List Char → Char × List Char
  | '-' :: digits => ('-', digits)
  | digits => ('+', digits)

/-- An exponent in a text gets a sign and at least two digits. -/
def widenExponent (text : List Char) : List Char :=
  match text.dropWhile (· != 'e') with
  | [] => text
  | _ :: exponent =>
    let (sign, digits) := splitExponent exponent
    text.takeWhile (· != 'e') ++ 'e' :: sign :: (List.replicate (2 - digits.length) '0' ++ digits)

def display (x : Binary64) : String :=
  if x.isNaN then "nan"
  else if x.isInfinite then String.ofList (x.signed ['i', 'n', 'f'])
  else String.ofList (widenExponent x.compact)

def plain (x : Binary64) : String :=
  if x.isNaN then "NaN"
  else if x.isInfinite then String.ofList (x.signed ['i', 'n', 'f'])
  else String.ofList (x.signed (if x.rank = 0 then ['0'] else x.shortest.positional))

end Binary64
end TabularQuery
