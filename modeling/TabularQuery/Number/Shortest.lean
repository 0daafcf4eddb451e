import TabularQuery.Number.Decimal

/-! The shortest decimal that reads back as a given number. The decimals that round to
one rank fill an interval, its basin. Decimal grids are tried from the coarsest; the
first that meets the basin gives the fewest digits, and if a grid meets the basin then
one of the two grid points beside the number does. -/

namespace TabularQuery

/-- The magnitudes that round to one rank, in half units: all between the midpoints to
the neighbouring ranks, and the midpoints themselves if the rank is even. -/
structure Basin where
  low : Nat
  value : Nat
  high : Nat
  closed : Bool

namespace Basin

def ofRank (rank : Nat) : Basin where
  low := Binary64.unitsOfRank (rank - 1) + Binary64.unitsOfRank rank
  value := 2 * Binary64.unitsOfRank rank
  high := Binary64.unitsOfRank rank + Binary64.unitsOfRank (rank + 1)
  closed := rank % 2 = 0

def contains (basin : Basin) (numerator denominator : Nat) : Bool :=
  if basin.closed then
    decide (basin.low * denominator ≤ numerator ∧ numerator ≤ basin.high * denominator)
  else
    decide (basin.low * denominator < numerator ∧ numerator < basin.high * denominator)

/-- The multiple of a power of ten in the basin that is nearest to its value. Of two
equally near the greater is taken. -/
def gridPoint? (basin : Basin) (exponent : Int) : Option Decimal :=
  let step := (Decimal.mk 1 exponent).fraction
  let width := step.1 * (2 * Binary64.unitsInOne)
  let value := basin.value * step.2
  let below := value / width
  let above := below + 1
  match basin.contains (below * width) step.2, basin.contains (above * width) step.2 with
  | true, true => some ⟨if 2 * value < (below + above) * width then below else above, exponent⟩
  | true, false => some ⟨below, exponent⟩
  | false, true => some ⟨above, exponent⟩
  | false, false => none

/-- Tries the grid this many powers of ten above the finest and then the finer ones. The
finest has a step below one unit, so it meets every basin. -/
def coarsestPoint (basin : Basin) : Nat → Decimal
  | 0 => (basin.gridPoint? (-324)).getD ⟨0, -324⟩
  | height + 1 => (basin.gridPoint? ((height : Int) + 1 - 324)).getD (basin.coarsestPoint height)

end Basin

/-- No finite number reaches 10³⁰⁹, where the search begins. -/
def Binary64.shortest (x : Binary64) : Decimal := (Basin.ofRank x.rank).coarsestPoint 633

end TabularQuery
