/-!
Tables of properties of characters.

A table is written as lines of text: the code points of an entry in
hexadecimal with blanks between them, and a comma between entries.  An entry
of a table gives the first and the last code point of a range and what its
characters have in common; ranges stand in ascending order and are searched by
halving.
-/

namespace CompilerRelay
namespace Text

/-- The value of a digit of a table, which has upper case letters. -/
def tableDigit? (c : Char) : Option Nat :=
  if '0' ≤ c ∧ c ≤ '9' then some (c.toNat - '0'.toNat)
  else if 'A' ≤ c ∧ c ≤ 'F' then some (c.toNat - 'A'.toNat + 10)
  else none

/-- How far the writing of a table has been read, the latest first. -/
structure TableReading where
  entries : List (List Nat)
  numbers : List Nat
  number : Option Nat

namespace TableReading

def endNumber (r : TableReading) : TableReading :=
  match r.number with
  | some number => { r with numbers := number :: r.numbers, number := none }
  | none => r

def endEntry (r : TableReading) : TableReading :=
  match r.endNumber with
  | ⟨entries, [], number⟩ => ⟨entries, [], number⟩
  | ⟨entries, numbers, number⟩ => ⟨numbers.reverse :: entries, [], number⟩

def step (r : TableReading) (c : Char) : TableReading :=
  match tableDigit? c with
  | some digit => { r with number := some ((r.number.getD 0) * 16 + digit) }
  | none => if c = ',' then r.endEntry else r.endNumber

end TableReading

/-- The entries that lines of text write down. -/
def tableEntries (lines : List String) : List (List Nat) :=
  let line (r : TableReading) (text : String) : TableReading :=
    (text.foldl TableReading.step r).endEntry
  (lines.foldl line ⟨[], [], none⟩).entries.reverse

/-- A range of code points with a value. -/
structure CharRange where
  first : Nat
  last : Nat
  value : List Nat

/-- Ranges of code points in ascending order, none of which meets another. -/
abbrev CharTable := Array CharRange

namespace CharTable

/-- A table of entries that are a first and a last code point and a value. -/
def ofRanges (lines : List String) : CharTable :=
  ((tableEntries lines).filterMap fun entry => match entry with
    | first :: last :: value => some ⟨first, last, value⟩
    | _ => none).toArray

/-- A table of entries that are a code point and a value. -/
def ofPoints (lines : List String) : CharTable :=
  ((tableEntries lines).filterMap fun entry => match entry with
    | point :: value => some ⟨point, point, value⟩
    | _ => none).toArray

/-- The first row in a part of the table that does not end before a point. -/
def locate (table : CharTable) (point low high : Nat) : Nat :=
  if low < high then
    let middle := low + (high - low) / 2
    if ((table[middle]?).map (·.last)).getD point < point then
      locate table point (middle + 1) high
    else locate table point low middle
  else low
termination_by high - low

/-- The range that holds a code point. -/
def find? (table : CharTable) (point : Nat) : Option CharRange :=
  (table[locate table point 0 table.size]?).filter fun row => row.first ≤ point

/-- Whether a range of the table holds a code point. -/
def contains (table : CharTable) (point : Nat) : Bool :=
  (table.find? point).isSome

/-- The number a table gives to a code point, which is zero outside its ranges. -/
def number (table : CharTable) (point : Nat) : Nat :=
  match table.find? point with
  | some ⟨_, _, number :: _⟩ => number
  | _ => 0

end CharTable
end Text
end CompilerRelay
