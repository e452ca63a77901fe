import CompilerRelay.Number.Binary64

/-!
The shortest decimal that reads back as a given floating point number.

Each number owns the reals that round to it.  For one, two, three and more
digits in turn, the two decimals of that many digits around the number are
tested; the first count with a hit wins, and of two hits the nearer one.
Seventeen digits always suffice.
-/

namespace CompilerRelay

/-- A decimal `digits * 10 ^ exponent`. -/
structure Decimal where
  digits : Nat
  exponent : Int
  deriving DecidableEq, Repr

namespace Shortest

/-- The quotient `num / den` measured in units of `10 ^ exponent`. -/
def inTens (num den : Nat) (exponent : Int) : Nat × Nat :=
  if 0 ≤ exponent then (num, den * Nat.pow 10 exponent.toNat)
  else (num * Nat.pow 10 (-exponent).toNat, den)

/-- The power of ten of the first digit of a positive quotient. -/
def leadingPower (num den : Nat) : Int :=
  if den ≤ num then ((Nat.toDigits 10 (num / den)).length : Int) - 1
  else
    let places := (Nat.toDigits 10 (den / num)).length - 1
    if num * Nat.pow 10 places = den then -(places : Int) else -(places : Int) - 1

/-- The reals that round to a number, as quotients over one denominator. -/
structure Interval where
  low : Nat
  value : Nat
  high : Nat
  den : Nat
  closed : Bool

/-- The interval of a positive number.  Below a power of two the neighbours
are closer, and the ends belong to the number when its mantissa is even. -/
def interval (x : Binary64) : Interval :=
  let below := if x.mantissa = Nat.pow 2 52 ∧ Binary64.leastExponent < x.exponent then 1 else 2
  let power := x.exponent - 2
  let scale := if 0 ≤ power then Nat.pow 2 power.toNat else 1
  let den := if 0 ≤ power then 1 else Nat.pow 2 (-power).toNat
  { low := (4 * x.mantissa - below) * scale
    value := 4 * x.mantissa * scale
    high := (4 * x.mantissa + 2) * scale
    den
    closed := x.mantissa % 2 == 0 }

/-- Whether `digits * 10 ^ exponent` lies in the interval. -/
def Interval.holds (i : Interval) (d : Decimal) : Bool :=
  let low := inTens i.low i.den d.exponent
  let high := inTens i.high i.den d.exponent
  if i.closed then low.1 ≤ d.digits * low.2 && d.digits * high.2 ≤ high.1
  else low.1 < d.digits * low.2 && d.digits * high.2 < high.1

/-- The decimal after one of `count` digits, again with `count` digits. -/
def nextDecimal (count : Nat) (d : Decimal) : Decimal :=
  if d.digits + 1 = Nat.pow 10 count then ⟨Nat.pow 10 (count - 1), d.exponent + 1⟩
  else ⟨d.digits + 1, d.exponent⟩

/-- The decimal of `count` digits that stands for the number, if one does. -/
def ofCount? (i : Interval) (leading : Int) (count : Nat) : Option Decimal :=
  let exponent := leading + 1 - count
  let units := inTens i.value i.den exponent
  let below : Decimal := ⟨units.1 / units.2, exponent⟩
  let above := nextDecimal count below
  let remainder := units.1 % units.2
  match i.holds below, i.holds above with
  | true, true =>
    if 2 * remainder < units.2 then some below
    else if units.2 < 2 * remainder then some above
    else if below.digits % 2 = 0 then some below else some above
  | true, false => some below
  | false, true => some above
  | false, false => none

/-- The fewest digits that read back as the magnitude of a number. -/
def decimal (x : Binary64) : Decimal :=
  if x.isZero then ⟨0, 0⟩
  else
    let i := interval x
    let leading := leadingPower i.value i.den
    ((List.range 17).findSome? fun n => ofCount? i leading (n + 1)).getD ⟨0, 0⟩

end Shortest

/-- How a decimal is laid out: the powers of the first digit that are written
without an exponent. -/
structure FloatLayout where
  plainFrom : Int
  plainBelow : Int

namespace FloatLayout

def text (layout : FloatLayout) (d : Decimal) : List Char :=
  let digits := Nat.toDigits 10 d.digits
  let leading := d.exponent + digits.length - 1
  if layout.plainFrom ≤ leading ∧ leading < layout.plainBelow then
    if 0 ≤ d.exponent then digits ++ List.replicate d.exponent.toNat '0' ++ ['.', '0']
    else if 0 ≤ leading then
      digits.take (leading + 1).toNat ++ '.' :: digits.drop (leading + 1).toNat
    else '0' :: '.' :: List.replicate (-leading - 1).toNat '0' ++ digits
  else
    let fraction := if digits.length ≤ 1 then [] else '.' :: digits.drop 1
    let sign := if leading < 0 then '-' else '+'
    digits.take 1 ++ fraction ++ 'e' :: sign :: Nat.toDigits 10 leading.natAbs

/-- Write a floating point number with the fewest digits that read back. -/
def render (layout : FloatLayout) (x : Binary64) : List Char :=
  let magnitude := layout.text (Shortest.decimal x)
  if x.negative then '-' :: magnitude else magnitude

end FloatLayout
end CompilerRelay
