import TabularQuery.Number.Literal

/-! Rounding to two decimal places, in words of fixed width. A magnitude is taken apart into
a significand and a power of two; the hundredfold significand is shifted right, and the bits
that fall off tell the nearest count of hundredths. The count is written as a decimal and
read back, which rounds a second time. Every operation on the words checks that it stays in
them. -/

namespace TabularQuery.Binary64

def magnitudeBits (x : Binary64) : UInt64 := UInt64.ofNat x.rank

def storedExponent (x : Binary64) : Nat := ((x.magnitudeBits >>> 52) &&& 0x7ff).toNat

def leadingBit : UInt64 := (1 : UInt64) <<< 52

def storedFraction (x : Binary64) : UInt64 := x.magnitudeBits &&& (leadingBit - 1)

/-- The least numbers have no leading bit, and the exponent of the binade above them. -/
def significand (x : Binary64) : UInt64 :=
  if x.storedExponent = 0 then x.storedFraction else x.storedFraction ||| leadingBit

def binaryExponent (x : Binary64) : Int :=
  if x.storedExponent = 0 then -1074 else (x.storedExponent : Int) - 1075

def checked (overflow : Bool) (result : BitVec 128) : Option (BitVec 128) :=
  if overflow then none else some result

def hundredfold? (x : Binary64) : Option (BitVec 128) :=
  let word := x.significand.toBitVec.setWidth 128
  checked (word.umulOverflow 100) (word * 100)

/-- The bits above a place, and one more if those below weigh more than half, or half beside
an odd count. A word of 128 bits is not shifted by 128 places or more. -/
def shiftEven? (word : BitVec 128) (shift : Nat) : Option (BitVec 128) := do
  let quotient ← checked (128 ≤ shift) (word >>> shift)
  let bit ← checked (128 ≤ shift) ((1 : BitVec 128) <<< shift)
  let mask ← checked (bit.usubOverflow 1) (bit - 1)
  let half ← checked (shift = 0 || 128 ≤ shift - 1) ((1 : BitVec 128) <<< (shift - 1))
  let remainder := word &&& mask
  if half < remainder ∨ (remainder = half ∧ quotient &&& 1 = 1) then
    checked (quotient.uaddOverflow 1) (quotient + 1)
  else some quotient

def shift (x : Binary64) : Nat := x.binaryExponent.natAbs

/-- The count of hundredths nearest to a magnitude, of two equally near the even one. -/
def hundredths? (x : Binary64) : Option (BitVec 128) :=
  x.hundredfold?.bind fun word => if 128 ≤ x.shift then some 0 else shiftEven? word x.shift

def hundredthsText (count : Nat) : List Char :=
  let cents := Nat.toDigits 10 (count % 100)
  Nat.toDigits 10 (count / 100) ++ '.' :: (List.replicate (2 - cents.length) '0' ++ cents)

/-- Whole numbers are left alone. The sign is kept, also of a number that rounds to zero. -/
def roundHundredths (x : Binary64) : Binary64 :=
  if !x.isFinite then x
  else if 0 ≤ x.binaryExponent then x
  else
    let read := x.hundredths?.bind fun count => Literal.ofPlain? (hundredthsText count.toNat)
    let magnitude := read.getD ⟨false, x.rank, x.rank_lt⟩
    ⟨x.negative, magnitude.rank, magnitude.rank_lt⟩

end TabularQuery.Binary64
