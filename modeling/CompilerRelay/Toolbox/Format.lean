import CompilerRelay.Number.Binary64
import CompilerRelay.Number.Word
import CompilerRelay.Toolbox.Escape

/-!
Formatted output.

A format holds text, escapes and places for arguments.  It is used again while
arguments are left, and a place without an argument takes an empty one.  A
number that cannot be read to its end counts as far as it was read, and that is
told.
-/

namespace CompilerRelay
namespace Toolbox

/-! ## Formats -/

/-- A width or a precision: written down, or given by an argument. -/
inductive Measure where
  | fixed (size : Nat)
  | argument
  deriving Repr

/-- A place for an argument. -/
structure Slot where
  kind : Char
  leftAligned : Bool
  zeros : Bool
  plus : Bool
  blank : Bool
  alternate : Bool
  width : Measure
  precision : Option Measure
  deriving Repr

/-- One part of a format. -/
inductive FormatPart where
  | text (chars : List Char)
  | slot (slot : Slot)
  /-- A place of a kind that there is not, as it is written. -/
  | unknown (written : List Char)
  /-- The end of all output. -/
  | stop
  | broken
  deriving Repr

/-- Read a width or a precision. -/
def readMeasure (rest : List Char) : Measure × List Char :=
  match rest with
  | '*' :: more => (.argument, more)
  | _ =>
    let read := readDigits 10 rest.length 0 rest
    (.fixed read.1, read.2)

/-- The kinds of places. -/
def slotKinds (program : Bool) : List Char :=
  if program then "bcdeEfFgGiosuxX".toList else "bcdeEfgGiosuxX".toList

/-- Read a place, after the percent sign.  Whether an argument in which escapes
are read may have a precision, and whether sizes of numbers may be named,
depends on who formats. -/
def readSlot (program : Bool) (rest : List Char) : FormatPart × List Char :=
  match rest with
  | '%' :: more => (.text ['%'], more)
  | _ =>
    let flags := rest.takeWhile "-+ #0".toList.contains
    let (width, afterWidth) := readMeasure (rest.drop flags.length)
    let (precision, afterPrecision) := match afterWidth with
      | '.' :: more =>
        let (precision, after) := readMeasure more
        (some precision, after)
      | after => (none, after)
    let sized := if program then afterPrecision.dropWhile "hlLjzt".toList.contains
      else afterPrecision
    match sized with
    | kind :: more =>
      if (slotKinds program).contains kind
          && !(program && kind = 'b' && (precision.isSome || rest.head? != some 'b')) then
        (.slot
          { kind, leftAligned := flags.contains '-', zeros := flags.contains '0'
            plus := flags.contains '+', blank := flags.contains ' '
            alternate := flags.contains '#', width, precision }, more)
      else (.unknown ('%' :: rest.take (rest.length - more.length)), more)
    | [] => (.unknown ['%'], [])

/-- The parts of a format. -/
def formatParts (program : Bool) (format : List Char) : List FormatPart :=
  go (format.length + 1) format
where
  go : Nat → List Char → List FormatPart
    | 0, _ => []
    | _ + 1, [] => []
    | bound + 1, '\\' :: rest =>
      match Escape.read (if program then .programFormat else .shellFormat) rest with
      | .text chars rest => .text chars :: go bound rest
      | .stop => [.stop]
      | .broken => [.broken]
    | bound + 1, '%' :: rest =>
      let (part, rest) := readSlot program rest
      part :: go bound rest
    | bound + 1, c :: rest => .text [c] :: go bound rest

/-! ## Numbers in arguments -/

/-- How far an argument can be read as a number. -/
inductive Reading where
  | whole
  /-- There is no number. -/
  | nothing
  /-- There is more behind the number. -/
  | part
  | outOfRange
  deriving DecidableEq, Repr

namespace Reading

/-- What is told about an argument. -/
def complaint? (program : Bool) (argument : List Char) : Reading → Option (List Char)
  | whole => none
  | nothing =>
    some (if program then '\'' :: argument ++ "': expected a numeric value".toList
      else argument ++ ": expected numeric value".toList)
  | part =>
    some (if program then '\'' :: argument ++ "': value not completely converted".toList
      else argument ++ ": not completely converted".toList)
  | outOfRange =>
    some (if program then '\'' :: argument ++ "': Numerical result out of range".toList
      else argument ++ ": Numerical result out of range".toList)

end Reading

def isBlankByte (c : Char) : Bool :=
  c == ' ' || (9 ≤ c.toNat && c.toNat ≤ 13)

/-- A sign, and what follows it. -/
def cutSign (text : List Char) : Bool × List Char :=
  match text with
  | '-' :: rest => (true, rest)
  | '+' :: rest => (false, rest)
  | rest => (false, rest)

/-- The digits of a number without a sign: in hexadecimal after a zero and an x,
in octal after a zero, and in decimal otherwise. -/
def readMagnitude (text : List Char) : Nat × List Char :=
  match text with
  | '0' :: x :: digit :: rest =>
    if (x = 'x' ∨ x = 'X') ∧ (digitValue? 16 digit).isSome then
      readDigits 16 (rest.length + 1) 0 (digit :: rest)
    else readDigits 8 text.length 0 text
  | '0' :: _ => readDigits 8 text.length 0 text
  | _ => readDigits 10 text.length 0 text

/-- The number of the character behind a quote.  Without such a character the
shell's own command takes zero. -/
def characterOf? (program : Bool) : List Char → Option Nat
  | ['"'] => if program then none else some 0
  | ['\''] => if program then none else some 0
  | '"' :: c :: _ => some c.toNat
  | '\'' :: c :: _ => some c.toNat
  | _ => none

/-- An argument as a number of 64 bits, with or without a sign. -/
def integerOf (program signed : Bool) (argument : List Char) : Int × Reading :=
  match characterOf? program argument with
  | some code => (code, .whole)
  | none =>
    let (negative, digits) := cutSign (argument.dropWhile isBlankByte)
    let (magnitude, rest) := readMagnitude digits
    let reading : Reading :=
      if argument.isEmpty then .whole
      else if rest.length = digits.length then .nothing
      else if rest.isEmpty then .whole else .part
    let value : Int := if negative then -(magnitude : Int) else magnitude
    if signed then
      if value < -Word.size 63 then (-Word.size 63, .outOfRange)
      else if Word.size 63 ≤ value then (Word.size 63 - 1, .outOfRange)
      else (value, reading)
    else if Word.size 64 ≤ magnitude then (Word.size 64 - 1, .outOfRange)
    else (value % Word.size 64, reading)

/-- Digits of a base with a point among them: the number they make without the
point, how many stand behind it, how many there are, and what follows. -/
def readPointed (base : Nat) (text : List Char) : Nat × Nat × Nat × List Char :=
  let whole := readDigits base text.length 0 text
  let count := text.length - whole.2.length
  match whole.2 with
  | '.' :: rest =>
    let read := readDigits base rest.length whole.1 rest
    let places := rest.length - read.2.length
    if count + places = 0 then (0, 0, 0, text) else (read.1, places, count + places, read.2)
  | rest => (whole.1, 0, count, rest)

/-- An exponent behind its letter, within bounds, and what follows. -/
def readExponent (letter : Char) (text : List Char) : Int × List Char :=
  match text with
  | c :: rest =>
    let (below, digits) := cutSign rest
    let (size, after) := readDigits 10 digits.length 0 digits
    if c.toLower = letter ∧ after.length < digits.length then
      ((if below then -(min size 5000 : Int) else min size 5000), after)
    else (0, text)
  | [] => (0, [])

/-- A natural number with a power of another one, as a quotient. -/
def scaled (digits base : Nat) (power : Int) : Nat × Nat :=
  if 0 ≤ power then (digits * Nat.pow base power.toNat, 1)
  else (digits, Nat.pow base (-power).toNat)

/-- A text without a sign as the exact quotient it denotes, in hexadecimal or in
decimal, how many digits were read, and what follows. -/
def readQuotient (text : List Char) : (Nat × Nat) × Nat × List Char :=
  let decimal : (Nat × Nat) × Nat × List Char :=
    let (digits, places, count, rest) := readPointed 10 text
    let (exponent, after) := readExponent 'e' rest
    (scaled digits 10 (exponent - places), count, after)
  match text with
  | '0' :: x :: rest =>
    let (digits, places, count, rest) := readPointed 16 rest
    if (x = 'x' ∨ x = 'X') ∧ 0 < count then
      let (exponent, after) := readExponent 'p' rest
      (scaled digits 2 (exponent - 4 * places), count, after)
    else decimal
  | _ => decimal

/-- An argument as the exact quotient it denotes. -/
def fractionOf (program : Bool) (argument : List Char) : Bool × (Nat × Nat) × Reading :=
  match characterOf? program argument with
  | some code => (false, (code, 1), .whole)
  | none =>
    let (negative, text) := cutSign (argument.dropWhile isBlankByte)
    let (quotient, count, rest) := readQuotient text
    if argument.isEmpty then (false, (0, 1), .whole)
    else if count = 0 then (false, (0, 1), .nothing)
    else (negative, quotient, if rest.isEmpty then .whole else .part)

/-- How many bits the mantissa of a number with a fraction has. -/
def mantissaBits (program : Bool) : Nat :=
  if program then 64 else 53

/-- A quotient rounded to so many bits. -/
def roundedTo (bits : Nat) (quotient : Nat × Nat) : Nat × Nat :=
  if quotient.1 = 0 then (0, 1)
  else
    let guess : Int := (Nat.log2 quotient.1 : Int) - Nat.log2 quotient.2 - bits
    let fits := Binary64.unitsOf quotient.1 quotient.2 guess
    let exponent := if fits.1 < fits.2 * Nat.pow 2 bits then guess else guess + 1
    let units := Binary64.unitsOf quotient.1 quotient.2 exponent
    scaled (Binary64.roundDiv units.1 units.2) 2 exponent

/-! ## Filling places -/

/-- Fill a text to a width; zeros go between the sign and the digits. -/
def Slot.filled (slot : Slot) (width : Nat) (zeros : Bool) (sign body : List Char) : List Char :=
  let missing := width - (sign.length + body.length)
  if slot.leftAligned then sign ++ body ++ List.replicate missing ' '
  else if zeros then sign ++ List.replicate missing '0' ++ body
  else List.replicate missing ' ' ++ sign ++ body

/-- The sign of a number that can have one. -/
def Slot.sign (slot : Slot) (negative : Bool) : List Char :=
  if negative then ['-'] else if slot.plus then ['+'] else if slot.blank then [' '] else []

/-- A whole number at its place. -/
def Slot.integer (slot : Slot) (width : Nat) (precision : Option Nat) (value : Int) : List Char :=
  let signed := slot.kind = 'd' ∨ slot.kind = 'i'
  let base := if slot.kind = 'o' then 8
    else if slot.kind = 'x' ∨ slot.kind = 'X' then 16 else 10
  let shown := if value = 0 ∧ precision = some 0 then [] else Nat.toDigits base value.natAbs
  let digits := List.replicate (precision.getD 1 - shown.length) '0' ++ shown
  let digits := if slot.alternate ∧ base = 8 ∧ digits.head? ≠ some '0' then '0' :: digits
    else digits
  let lead := if signed then slot.sign (value < 0)
    else if slot.alternate ∧ base = 16 ∧ value ≠ 0 then ['0', 'x'] else []
  let written := slot.filled width (slot.zeros && precision.isNone) lead digits
  if slot.kind = 'X' then written.map Char.toUpper else written

/-- A quotient with so many decimal places. -/
def fixedPoint (places : Nat) (alternate : Bool) (quotient : Nat × Nat) : List Char :=
  let digits := Nat.toDigits 10 (Binary64.roundDiv (quotient.1 * Nat.pow 10 places) quotient.2)
  let padded := List.replicate (places + 1 - digits.length) '0' ++ digits
  let point := if places = 0 ∧ !alternate then [] else ['.']
  padded.take (padded.length - places) ++ point ++ padded.drop (padded.length - places)

/-- The power of ten of the first digit of a quotient that is not zero. -/
def leadingPower (quotient : Nat × Nat) : Int :=
  let guess : Int := (Nat.toDigits 10 quotient.1).length - (Nat.toDigits 10 quotient.2).length
  let reaches := if 0 ≤ guess then quotient.2 * Nat.pow 10 guess.toNat ≤ quotient.1
    else quotient.2 ≤ quotient.1 * Nat.pow 10 (-guess).toNat
  if reaches then guess else guess - 1

/-- A quotient as digits and a power of ten, rounded to so many places behind
the first digit. -/
def scientific (places : Nat) (quotient : Nat × Nat) : Nat × Int :=
  if quotient.1 = 0 then (0, 0)
  else
    let power := leadingPower quotient
    let shift := (places : Int) - power
    let digits := if 0 ≤ shift then
        Binary64.roundDiv (quotient.1 * Nat.pow 10 shift.toNat) quotient.2
      else Binary64.roundDiv quotient.1 (quotient.2 * Nat.pow 10 (-shift).toNat)
    if digits = Nat.pow 10 (places + 1) then (digits / 10, power + 1) else (digits, power)

/-- Digits and a power of ten, written with a mark before the power. -/
def exponential (places : Nat) (alternate : Bool) (rounded : Nat × Int) : List Char :=
  let digits := Nat.toDigits 10 rounded.1
  let digits := digits ++ List.replicate (places + 1 - digits.length) '0'
  let power := Nat.toDigits 10 rounded.2.natAbs
  digits.take 1 ++ (if places = 0 ∧ !alternate then [] else ['.']) ++ digits.drop 1 ++ ['e']
    ++ (if rounded.2 < 0 then ['-'] else ['+']) ++ List.replicate (2 - power.length) '0' ++ power

/-- A decimal without the zeros at the end of its fraction. -/
def withoutZeros (text : List Char) : List Char :=
  if text.contains '.' then
    let kept := text.reverse.dropWhile (· == '0')
    (if kept.head? = some '.' then kept.drop 1 else kept).reverse
  else text

/-- A quotient in the shorter of the two ways to write it. -/
def general (precision : Nat) (alternate : Bool) (quotient : Nat × Nat) : List Char :=
  let count := max precision 1
  let rounded := scientific (count - 1) quotient
  let trimmed (text : List Char) : List Char := if alternate then text else withoutZeros text
  if -4 ≤ rounded.2 ∧ rounded.2 < count then
    trimmed (fixedPoint ((count : Int) - 1 - rounded.2).toNat alternate quotient)
  else
    let text := exponential (count - 1) alternate rounded
    trimmed (text.takeWhile (· != 'e')) ++ text.dropWhile (· != 'e')

/-- A number with a fraction at its place, or infinity. -/
def Slot.fraction (slot : Slot) (width : Nat) (precision : Option Nat) (negative : Bool)
    (quotient : Option (Nat × Nat)) : List Char :=
  let places := precision.getD 6
  let body := match quotient with
    | none => ['i', 'n', 'f']
    | some exact =>
      match slot.kind.toLower with
      | 'f' => fixedPoint places slot.alternate exact
      | 'e' => exponential places slot.alternate (scientific places exact)
      | _ => general places slot.alternate exact
  let written := slot.filled width (slot.zeros && quotient.isSome) (slot.sign negative) body
  if slot.kind.isUpper then written.map Char.toUpper else written

/-! ## Using a format -/

/-- How far a format was used. -/
structure Printing where
  /-- What was written, the latest piece first. -/
  written : List (List Char) := []
  arguments : List (List Char)
  complaints : List (List Char) := []
  /-- Nothing more is written. -/
  stopped : Bool := false
  /-- The format cannot be used. -/
  failed : Bool := false

namespace Printing

def write (text : List Char) (p : Printing) : Printing :=
  { p with written := text :: p.written }

/-- Take the next argument. -/
def next (p : Printing) : List Char × Printing :=
  (p.arguments.head?.getD [], { p with arguments := p.arguments.drop 1 })

/-- Note what is told about an argument. -/
def note (program : Bool) (argument : List Char) (reading : Reading) (p : Printing) : Printing :=
  { p with complaints := p.complaints ++ (reading.complaint? program argument).toList }

/-- The size that a measure asks for. -/
def measure (program : Bool) (p : Printing) : Measure → Int × Printing
  | .fixed size => (size, p)
  | .argument =>
    let (argument, p) := p.next
    let (value, reading) := integerOf program true argument
    (value, p.note program argument reading)

/-- Fill a place. -/
def fill (program : Bool) (slot : Slot) (p : Printing) : Printing :=
  let (width, p) := p.measure program slot.width
  let slot := if width < 0 then { slot with leftAligned := true } else slot
  let width := width.natAbs
  let (precision, p) : Option Nat × Printing := match slot.precision with
    | none => (none, p)
    | some measure =>
      let (size, p) := p.measure program measure
      (if size < 0 then none else some size.toNat, p)
  let (argument, p) := p.next
  let shown (text : List Char) : List Char :=
    slot.filled width false [] (precision.elim text text.take)
  match slot.kind with
  | 's' => p.write (shown argument)
  | 'c' => p.write (slot.filled width false [] [argument.head?.getD (Char.ofNat 0)])
  | 'b' =>
    let escapes : Escapes := if program then .programFormat else .shellFormat
    let read := unescaped escapes.ofArgument argument
    { p.write (shown read.text) with stopped := read.stopped, failed := read.broken }
  | kind =>
    if ['d', 'i', 'u', 'o', 'x', 'X'].contains kind then
      let (value, reading) := integerOf program (kind = 'd' ∨ kind = 'i') argument
      (p.note program argument reading).write (slot.integer width precision value)
    else
      let (negative, exact, reading) := fractionOf program argument
      let rounded := roundedTo (mantissaBits program) exact
      let finite := program || rounded.1 < rounded.2 * Nat.pow 2 1024
      let reading := if finite then reading else .outOfRange
      (p.note program argument reading).write
        (slot.fraction width precision negative (if finite then some rounded else none))

/-- Use the parts of a format once. -/
def once (program : Bool) : List FormatPart → Printing → Printing
  | [], p => p
  | part :: rest, p =>
    if p.stopped then p
    else match part with
      | .text chars => once program rest (p.write chars)
      | .slot slot => once program rest (p.fill program slot)
      | .stop => { p with stopped := true }
      | .broken => { p with stopped := true, failed := true }
      | .unknown written =>
        let complaint := if program then written ++ ": invalid conversion specification".toList
          else if written = ['%'] then "missing format character".toList
          else written ++ ": invalid directive".toList
        { p with complaints := p.complaints ++ [complaint], stopped := true, failed := true }

/-- Use the parts of a format until no arguments are left. -/
def all (program : Bool) (parts : List FormatPart) : Nat → Printing → Printing
  | 0, p => p
  | bound + 1, p =>
    let used := p.once program parts
    if used.stopped || used.arguments.isEmpty || used.arguments.length == p.arguments.length then
      used
    else all program parts bound used

def text (p : Printing) : List Char :=
  p.written.reverse.flatten

def status (program : Bool) (p : Printing) : Nat :=
  if p.failed then (if program then 1 else 2) else if p.complaints.isEmpty then 0 else 1

end Printing

/-- Use a format with arguments, for the program or for the shell's own command. -/
def formatted (program : Bool) (format : List Char) (arguments : List (List Char)) : Printing :=
  Printing.all program (formatParts program format) (arguments.length + 1) { arguments }

end Toolbox
end CompilerRelay
