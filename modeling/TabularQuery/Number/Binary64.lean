/-! Binary floating-point numbers of sixty-four bits, described by whole numbers
alone. A number is a sign and a rank, its place among the nonnegative numbers, so
comparison is comparison of ranks and rounding has one formula for every binade.
Every finite magnitude is a whole number of units; a unit is the least positive
magnitude, 2⁻¹⁰⁷⁴. -/

namespace TabularQuery

/-- The rank is the encoding without its sign bit. Ranks above that of infinity
stand for no number. -/
structure Binary64 where
  negative : Bool
  rank : Nat
  rank_lt : rank < 0x8000000000000000
  deriving DecidableEq

namespace Binary64

theorem ext_rank {x y : Binary64} (sign : x.negative = y.negative) (rank : x.rank = y.rank) : x = y := by
  cases x
  cases y
  obtain rfl := sign
  obtain rfl := rank
  rfl

def binadeRanks : Nat := 0x10000000000000

def infinityRank : Nat := 2047 * binadeRanks

theorem infinityRank_lt : infinityRank < 0x8000000000000000 := by decide

def ofBits (bits : UInt64) : Binary64 :=
  ⟨decide (0x8000000000000000 ≤ bits.toNat), bits.toNat % 0x8000000000000000, Nat.mod_lt _ (by decide)⟩

def toBits (x : Binary64) : UInt64 :=
  UInt64.ofNat ((if x.negative then 0x8000000000000000 else 0) + x.rank)

def zero (negative : Bool) : Binary64 := ⟨negative, 0, by decide⟩

def infinity (negative : Bool) : Binary64 := ⟨negative, infinityRank, infinityRank_lt⟩

def nan : Binary64 := ⟨false, infinityRank + 0x8000000000000, by decide⟩

def isNaN (x : Binary64) : Bool := infinityRank < x.rank

def isInfinite (x : Binary64) : Bool := x.rank = infinityRank

def isFinite (x : Binary64) : Bool := x.rank < infinityRank

/-- Within a binade ranks step by one and units by a power of two. The first two
binades share the step of one unit. -/
def unitsOfRank (rank : Nat) : Nat :=
  if rank < binadeRanks then rank
  else (binadeRanks + rank % binadeRanks) <<< (rank / binadeRanks - 1)

def units (x : Binary64) : Nat := unitsOfRank x.rank

def unitsInOne : Nat := 1 <<< 1074

def signedUnits (x : Binary64) : Int := if x.negative then -(x.units : Int) else x.units

def key (x : Binary64) : Int := if x.negative then -(x.rank : Int) else x.rank

/-- Nothing is below or above what is not a number. -/
def less (x y : Binary64) : Bool := !x.isNaN && !y.isNaN && decide (x.key < y.key)

/-- The whole number nearest to a quotient; of two equally near the even one. -/
def divideEven (numerator denominator : Nat) : Nat :=
  let quotient := numerator / denominator
  let remainder := numerator % denominator
  if 2 * remainder < denominator then quotient
  else if denominator < 2 * remainder then quotient + 1
  else quotient + quotient % 2

/-- The rank nearest to a quotient of units. The step of the binade is a power of
two, and a significand that rounds up to the next binade carries into the rank. -/
def nearestRank (numerator denominator : Nat) : Nat :=
  let shift := Nat.log2 (numerator / denominator) - 52
  min (shift * binadeRanks + divideEven numerator (denominator <<< shift)) infinityRank

theorem nearestRank_lt (numerator denominator : Nat) :
    nearestRank numerator denominator < 0x8000000000000000 :=
  Nat.lt_of_le_of_lt (Nat.min_le_right _ _) infinityRank_lt

/-- The number nearest to a quotient of units, ties to even, beyond the greatest
finite number infinity. -/
def nearest (negative : Bool) (numerator denominator : Nat) : Binary64 :=
  ⟨negative, nearestRank numerator denominator, nearestRank_lt _ _⟩

def ofNat (n : Nat) : Binary64 := nearest false (n * unitsInOne) 1

/-- The nearest number to the exact sum. A sum of zero is negative only if both
terms are. -/
def add (x y : Binary64) : Binary64 :=
  if x.isNaN || y.isNaN then nan
  else if x.isInfinite then
    if y.isInfinite && x.negative != y.negative then nan else x
  else if y.isInfinite then y
  else
    let total := x.signedUnits + y.signedUnits
    if total = 0 then zero (x.negative && y.negative)
    else nearest (decide (total < 0)) total.natAbs 1

def divide (x y : Binary64) : Binary64 :=
  let negative := x.negative != y.negative
  if x.isNaN || y.isNaN then nan
  else if x.isInfinite then if y.isInfinite then nan else infinity negative
  else if y.isInfinite then zero negative
  else if y.rank = 0 then if x.rank = 0 then nan else infinity negative
  else nearest negative (x.units * unitsInOne) y.units

/-- Added from left to right. The empty sum is the negative zero, which leaves every
number as it is. -/
def sum (values : List Binary64) : Binary64 := values.foldl add (zero true)

end Binary64
end TabularQuery
