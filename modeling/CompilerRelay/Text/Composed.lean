import CompilerRelay.Text.Composed.CombiningClass
import CompilerRelay.Text.Composed.Decomposition

/-!
Texts in composed form.

The same text can be written with letters and marks or with characters that
stand for both.  To compose a text, all characters are taken apart, the marks
behind each letter are put in the order of their classes, and letters are put
together with the marks they can be composed with.  Korean syllables are taken
apart and composed by arithmetic.
-/

namespace CompilerRelay
namespace Text

namespace Syllable

/-- The first syllable, and the first of the leading, middle and closing letters.
The first closing letter stands for none. -/
def firstSyllable : Nat := 0xAC00

def firstLeading : Nat := 0x1100

def firstMiddle : Nat := 0x1161

def firstClosing : Nat := 0x11A7

def leadingCount : Nat := 19

def middleCount : Nat := 21

def closingCount : Nat := 28

/-- How many syllables there are. -/
def count : Nat :=
  leadingCount * middleCount * closingCount

def letters? (point : Nat) : Option (List Nat) :=
  let index := point - firstSyllable
  if point < firstSyllable ∨ count ≤ index then none
  else
    let leading := firstLeading + index / (middleCount * closingCount)
    let middle := firstMiddle + index / closingCount % middleCount
    let closing := index % closingCount
    some (if closing = 0 then [leading, middle] else [leading, middle, firstClosing + closing])

/-- The syllable of two letters, or of a syllable and a closing letter. -/
def compose? (first second : Nat) : Option Nat :=
  let leading := first - firstLeading
  let middle := second - firstMiddle
  let syllable := first - firstSyllable
  let closing := second - firstClosing
  if firstLeading ≤ first ∧ leading < leadingCount ∧ firstMiddle ≤ second ∧ middle < middleCount then
    some (firstSyllable + (leading * middleCount + middle) * closingCount)
  else if firstSyllable ≤ first ∧ syllable < count ∧ syllable % closingCount = 0
      ∧ firstClosing < second ∧ closing < closingCount then
    some (first + closing)
  else none

end Syllable

/-- A code point taken apart once. -/
def parts (point : Nat) : List Nat :=
  if point < 0xC0 then [point]
  else match Syllable.letters? point with
    | some letters => letters
    | none =>
      match Decomposition.pairs.find? point, Decomposition.finals.find? point with
      | some row, _ => row.value
      | none, some row => row.value
      | none, none => [point]

/-- A text taken apart so many times. -/
def takenApart : Nat → List Nat → List Nat
  | 0, points => points
  | times + 1, points => takenApart times (points.flatMap parts)

/-- How often parts have parts themselves, at most. -/
def depth : Nat := 4

/-- Put a mark before the marks of higher classes and after those of lower
ones, in a text whose marks are in order. -/
def insertMark (mark : Nat) : List Nat → List Nat
  | [] => [mark]
  | point :: rest =>
    if 0 < combiningClass point ∧ combiningClass point < combiningClass mark then
      point :: insertMark mark rest
    else mark :: point :: rest

/-- Put the marks behind each letter in the order of their classes. -/
def ordered : List Nat → List Nat
  | [] => []
  | point :: rest => insertMark point (ordered rest)

/-- The character that two are composed into. -/
def composite? (first second : Nat) : Option Nat :=
  match Syllable.compose? first second with
  | some syllable => some syllable
  | none =>
    match Decomposition.composites.find? (first * 0x110000 + second) with
    | some ⟨_, _, [point]⟩ => some point
    | _ => none

/-- Compose a letter with what is behind it.  The marks are those that were not
composed, the latest first. -/
def composeFrom (letter : Nat) (marks : List Nat) : List Nat → List Nat
  | [] => letter :: marks.reverse
  | point :: rest =>
    let reachable := match marks with
      | [] => true
      | last :: _ => combiningClass last < combiningClass point
    match if reachable then composite? letter point else none with
    | some whole => composeFrom whole marks rest
    | none =>
      if combiningClass point = 0 then letter :: marks.reverse ++ composeFrom point [] rest
      else composeFrom letter (point :: marks) rest

/-- Compose a text that is taken apart and in order. -/
def composedPoints : List Nat → List Nat
  | [] => []
  | point :: rest =>
    if combiningClass point = 0 then composeFrom point [] rest
    else point :: composedPoints rest

def composed (text : List Char) : List Char :=
  if text.all fun c => c.toNat < 0xC0 then text
  else (composedPoints (ordered (takenApart depth (text.map Char.toNat)))).map Char.ofNat

end Text
end CompilerRelay
