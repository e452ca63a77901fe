/-!
Finite binary floating point numbers of 64 bits, held exactly.

A number is a sign, a mantissa below `2 ^ 53` and a power of two not below
`-1074`.  Every operation computes the exact quotient in natural numbers and
rounds once, to the nearest neighbour and to the even one on a tie, so nothing
here depends on the machine's arithmetic.  Results past the largest finite
number are reported as `none`; there are no infinities.
-/

namespace CompilerRelay

/-- A finite binary floating point number, `± mantissa * 2 ^ exponent`. -/
structure Binary64 where
  negative : Bool
  mantissa : Nat
  exponent : Int
  deriving DecidableEq, Repr

namespace Binary64

/-- The least power of two a mantissa is counted in. -/
def leastExponent : Int := -1074

/-- The greatest power of two a mantissa is counted in. -/
def greatestExponent : Int := 971

def zero (negative : Bool) : Binary64 :=
  ⟨negative, 0, leastExponent⟩

/-- Divide to the nearest integer; a half goes to the even neighbour. -/
def roundDiv (num den : Nat) : Nat :=
  let quotient := num / den
  let remainder := num % den
  if 2 * remainder < den then quotient
  else if den < 2 * remainder then quotient + 1
  else quotient + quotient % 2

/-- The quotient `num / (den * 2 ^ exponent)` as a pair of natural numbers. -/
def unitsOf (num den : Nat) (exponent : Int) : Nat × Nat :=
  if 0 ≤ exponent then (num, den * Nat.pow 2 exponent.toNat)
  else (num * Nat.pow 2 (-exponent).toNat, den)

/-- The number nearest to `num / den`, or `none` if that is not finite. -/
def ofRatio? (negative : Bool) (num den : Nat) : Option Binary64 :=
  if num = 0 then some (zero negative)
  else
    let guess : Int := (Nat.log2 num : Int) - Nat.log2 den - 53
    let fits := unitsOf num den guess
    let tight := if fits.1 < fits.2 * Nat.pow 2 53 then guess else guess + 1
    let exponent := max tight leastExponent
    let units := unitsOf num den exponent
    let mantissa := roundDiv units.1 units.2
    let carried := if mantissa = Nat.pow 2 53 then (Nat.pow 2 52, exponent + 1) else (mantissa, exponent)
    if greatestExponent < carried.2 then none else some ⟨negative, carried.1, carried.2⟩

/-- The magnitude as an exact quotient of natural numbers. -/
def ratio (x : Binary64) : Nat × Nat :=
  if 0 ≤ x.exponent then (x.mantissa * Nat.pow 2 x.exponent.toNat, 1)
  else (x.mantissa, Nat.pow 2 (-x.exponent).toNat)

def isZero (x : Binary64) : Bool :=
  x.mantissa == 0

/-- The number nearest to a natural number. -/
def ofNat? (n : Nat) : Option Binary64 :=
  ofRatio? false n 1

/-- Multiply and round. -/
def mul? (x y : Binary64) : Option Binary64 :=
  let a := x.ratio
  let b := y.ratio
  ofRatio? (x.negative != y.negative) (a.1 * b.1) (a.2 * b.2)

/-- A magnitude with the sign of a number. -/
def signed (x : Binary64) (magnitude : Nat) : Int :=
  if x.negative then -(magnitude : Int) else magnitude

/-- Add and round.  A sum that is zero is negative only if both numbers are. -/
def add? (x y : Binary64) : Option Binary64 :=
  let a := x.ratio
  let b := y.ratio
  let sum := x.signed (a.1 * b.2) + y.signed (b.1 * a.2)
  if sum = 0 then some (zero (x.negative && y.negative))
  else ofRatio? (sum < 0) sum.natAbs (a.2 * b.2)

/-- Whether one number is less than another; zeros are equal. -/
def isLess (x y : Binary64) : Bool :=
  let a := x.ratio
  let b := y.ratio
  x.signed (a.1 * b.2) < y.signed (b.1 * a.2)

/-- Divide by a number that is not zero, and round. -/
def div? (x y : Binary64) : Option Binary64 :=
  let a := x.ratio
  let b := y.ratio
  ofRatio? (x.negative != y.negative) (a.1 * b.2) (a.2 * b.1)

/-- The number nearest to a power of ten. -/
def powerOfTen? (exponent : Nat) : Option Binary64 :=
  ofNat? (Nat.pow 10 exponent)

/-- The greatest power of ten that is finite. -/
def greatestTen : Nat := 308

/-- Divide by one number several times, rounding each time.  Zero stays as it is. -/
def divTimes? (divisor : Binary64) : Nat → Binary64 → Option Binary64
  | 0, x => some x
  | count + 1, x => if x.isZero then some x else (x.div? divisor).bind (divTimes? divisor count)

/-- Divide by `10 ^ places`, at most `10 ^ 308` at a time. -/
def shiftDown (x : Binary64) (places : Nat) : Option Binary64 := do
  let whole := (places - 1) / greatestTen
  let reduced ← divTimes? (← powerOfTen? greatestTen) whole x
  reduced.div? (← powerOfTen? (places - whole * greatestTen))

/-- Multiply by `10 ^ places`. -/
def shiftUp (x : Binary64) (places : Nat) : Option Binary64 :=
  if places ≤ greatestTen then (powerOfTen? places).bind x.mul?
  else if x.isZero then some x
  else none

/-- The number a decimal literal denotes: the significand is rounded first and
then scaled by a rounded power of ten, so the last bit may differ from that of
the nearest number. -/
def ofDecimal? (negative : Bool) (significand : Nat) (exponent : Int) : Option Binary64 := do
  let magnitude ← ofNat? significand
  let scaled ← if 0 ≤ exponent then magnitude.shiftUp exponent.toNat
    else magnitude.shiftDown (-exponent).toNat
  return { scaled with negative }

end Binary64
end CompilerRelay
