import CompilerRelay.Number.Word

/-!
Names of hosts above ASCII, written with ASCII letters and digits.

The characters above ASCII are inserted into the ASCII ones in ascending
order.  Each insertion is a number, written with digits of base 36 whose
thresholds follow the numbers already written.
-/

namespace CompilerRelay
namespace Uri
namespace Punycode

def digit (n : Nat) : Char :=
  if n < 26 then Char.ofNat ('a'.toNat + n) else Char.ofNat ('0'.toNat + n - 26)

/-- The threshold at a position, between one and 26. -/
def threshold (position bias : Nat) : Nat :=
  min 26 (max 1 (position - bias))

theorem threshold_pos (position bias : Nat) : 1 ≤ threshold position bias := by
  unfold threshold
  omega

theorem threshold_le (position bias : Nat) : threshold position bias ≤ 26 := by
  unfold threshold
  omega

/-- A number in digits with the thresholds of a bias. -/
def digits (bias position number : Nat) : List Char :=
  let t := threshold position bias
  if number < t then [digit number]
  else digit (t + (number - t) % (36 - t)) :: digits bias (position + 36) ((number - t) / (36 - t))
termination_by number
decreasing_by
  have low := threshold_pos position bias
  have high := threshold_le position bias
  exact Nat.lt_of_le_of_lt (Nat.div_le_self _ _) (by omega)

/-- Divide by 35 until small, counting 36 for each division. -/
def scaledDown (delta position : Nat) : Nat × Nat :=
  if 455 < delta then scaledDown (delta / 35) (position + 36) else (delta, position)
termination_by delta
decreasing_by exact Nat.div_lt_self (by omega) (by omega)

/-- The bias after a number was written. -/
def nextBias (delta points : Nat) (first : Bool) : Nat :=
  let halved := if first then delta / 700 else delta / 2
  let scaled := scaledDown (halved + halved / points) 0
  scaled.2 + 36 * scaled.1 / (scaled.1 + 38)

/-- How far the insertions have come. -/
structure Progress where
  written : List Char
  delta : Nat
  bias : Nat
  handled : Nat

/-- Pass one character of the name while inserting a code point. -/
def pass (ascii point : Nat) (progress : Progress) (c : Char) : Progress :=
  if c.toNat < point then { progress with delta := progress.delta + 1 }
  else if c.toNat = point then
    { written := progress.written ++ digits progress.bias 36 progress.delta
      delta := 0
      bias := nextBias progress.delta (progress.handled + 1) (progress.handled == ascii)
      handled := progress.handled + 1 }
  else progress

/-- Insert code points, given in ascending order, after those below `next`. -/
def insertAll (name : List Char) (ascii : Nat) : List Nat → Nat → Progress → Progress
  | [], _, progress => progress
  | point :: rest, next, progress =>
    let moved := { progress with
      delta := progress.delta + (point - next) * (progress.handled + 1) }
    let passed := name.foldl (pass ascii point) moved
    insertAll name ascii rest (point + 1) { passed with delta := passed.delta + 1 }

/-- A label without its mark. -/
def encode (name : List Char) : List Char :=
  let ascii := name.filter fun c => c.toNat < 0x80
  let others := ((name.filter fun c => 0x80 ≤ c.toNat).map Char.toNat).mergeSort.eraseDups
  let start : Progress := ⟨[], 0, 72, ascii.length⟩
  ascii ++ (if ascii.isEmpty then [] else ['-'])
    ++ (insertAll name ascii.length others 128 start).written

def digitValue? (c : Char) : Option Nat :=
  if 'a' ≤ c ∧ c ≤ 'z' then some (c.toNat - 'a'.toNat)
  else if '0' ≤ c ∧ c ≤ '9' then some (c.toNat - '0'.toNat + 26)
  else none

/-- How far a label has been read. -/
structure Reading where
  name : List Char
  point : Nat
  bias : Nat
  /-- Where the next character is inserted, and where counting began. -/
  place : Nat
  start : Nat
  /-- What the next digit of a number counts, and its position. -/
  weight : Nat
  position : Nat

namespace Reading

/-- Before any digit, with the ASCII characters of the name. -/
def initial (ascii : List Char) : Reading :=
  ⟨ascii, 128, 72, 0, 0, 1, 36⟩

/-- Whether the last number is complete. -/
def isComplete (r : Reading) : Bool :=
  r.position == 36

/-- Insert the character that the number now read stands for. -/
def insert? (r : Reading) : Option Reading :=
  let size := r.name.length + 1
  let point := r.point + r.place / size
  let place := r.place % size
  if (Char.ofNat point).toNat = point then
    some {
      name := r.name.take place ++ Char.ofNat point :: r.name.drop place
      point
      bias := nextBias (r.place - r.start) size (r.start == 0)
      place := place + 1
      start := place + 1
      weight := 1
      position := 36 }
  else none

/-- Read a digit.  Numbers are words of 32 bits. -/
def step? (r : Reading) (c : Char) : Option Reading := do
  let value ← digitValue? c
  let place := r.place + value * r.weight
  let t := threshold r.position r.bias
  if Word.size 32 ≤ place then none
  else if value < t then insert? { r with place := place }
  else
    let weight := r.weight * (36 - t)
    if Word.size 32 ≤ weight then none
    else some { r with place := place, weight := weight, position := r.position + 36 }

end Reading

/-- The name that a label without its mark stands for. -/
def decode? (label : List Char) : Option (List Char) := do
  let digits := (label.reverse.takeWhile (· != '-')).reverse
  let ascii := label.take (label.length - digits.length - 1)
  let read ← (if ascii.isEmpty then label else digits).foldlM Reading.step? (Reading.initial ascii)
  if read.isComplete then some read.name else none

end Punycode
end Uri
end CompilerRelay
