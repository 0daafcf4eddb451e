import TabularQuery.Number.Binary64

/-! Decimal numbers: a whole coefficient times a power of ten. They stand between the
text of a number and its binary value in both directions. -/

namespace TabularQuery

structure Decimal where
  coefficient : Nat
  exponent : Int
  deriving DecidableEq

namespace Decimal

def fraction (d : Decimal) : Nat × Nat :=
  match d.exponent with
  | .ofNat power => (d.coefficient * Nat.pow 10 power, 1)
  | .negSucc power => (d.coefficient, Nat.pow 10 (power + 1))

/-- The rank nearest to a decimal. The first tests only spare huge powers of ten: past
10⁴⁰⁰ every positive decimal overflows, and below 10⁻⁴⁰⁰ every one underflows; a
coefficient is below two, hence below ten, to the power of its count of binary digits. -/
def nearestRank (d : Decimal) : Nat :=
  if d.coefficient = 0 then 0
  else if 400 < d.exponent then Binary64.infinityRank
  else if d.exponent + (Nat.log2 d.coefficient + 1) < -400 then 0
  else Binary64.nearestRank (d.fraction.1 * Binary64.unitsInOne) d.fraction.2

theorem nearestRank_lt (d : Decimal) : d.nearestRank < 0x8000000000000000 := by
  unfold nearestRank
  split
  · decide
  · split
    · exact Binary64.infinityRank_lt
    · split
      · decide
      · exact Binary64.nearestRank_lt _ _

def toBinary64 (d : Decimal) (negative : Bool) : Binary64 :=
  ⟨negative, d.nearestRank, d.nearestRank_lt⟩

end Decimal
end TabularQuery
