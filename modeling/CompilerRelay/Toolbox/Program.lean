/-!
Programs that read one stream of bytes and write another.

A program is a function of what it was given to read so far and of whether
more may come.  Giving it more can only prolong what it writes, so a program
that runs is asked again whenever it is given more.  Inside the toolbox bytes
are written as the characters below 256.
-/

namespace CompilerRelay
namespace Toolbox

/-- What a program has done with the input it was given. -/
structure Run where
  /-- What it has written. -/
  output : List Char
  /-- It will write no more. -/
  outputClosed : Bool
  /-- It will read no more. -/
  inputClosed : Bool
  deriving Repr, Inhabited

/-- A program: the input so far, and whether the input has ended. -/
abbrev Program := List Char → Bool → Run

/-- A run that has come to its end. -/
def Run.ended (output : List Char) : Run :=
  ⟨output, true, true⟩

/-- A run that waits for more input. -/
def Run.waiting (output : List Char) : Run :=
  ⟨output, false, false⟩

def ofBytes (bytes : List UInt8) : List Char :=
  bytes.map fun byte => Char.ofNat byte.toNat

def toBytes (octets : List Char) : List UInt8 :=
  octets.map fun c => UInt8.ofNat c.toNat

/-- A text as bytes, written as characters. -/
def ofText (text : String) : List Char :=
  ofBytes (text.toList.flatMap String.utf8EncodeChar)

/-- The first line and what follows it, if a line end is there. -/
def cutLine : List Char → Option (List Char × List Char)
  | [] => none
  | c :: rest =>
    if c = '\n' then some ([], rest)
    else (cutLine rest).map fun cut => (c :: cut.1, cut.2)

theorem cutLine_length_lt {input line rest : List Char} (h : cutLine input = some (line, rest)) :
    rest.length < input.length := by
  induction input generalizing line with
  | nil => simp [cutLine] at h
  | cons c more ih =>
    unfold cutLine at h
    split at h
    · simp_all
    · obtain ⟨⟨first, left⟩, found, same⟩ := Option.map_eq_some_iff.1 h
      obtain ⟨-, rfl⟩ := Prod.mk.inj same
      exact Nat.lt_succ_of_lt (ih found)

/-- The lines of a text and the unfinished line at its end. -/
def cutLines (input : List Char) : List (List Char) × List Char :=
  match _h : cutLine input with
  | none => ([], input)
  | some (line, rest) =>
    let others := cutLines rest
    (line :: others.1, others.2)
termination_by input.length
decreasing_by exact cutLine_length_lt _h

def digitValue? (base : Nat) (c : Char) : Option Nat :=
  let value :=
    if '0' ≤ c ∧ c ≤ '9' then c.toNat - '0'.toNat
    else if 'a' ≤ c ∧ c ≤ 'f' then c.toNat - 'a'.toNat + 10
    else if 'A' ≤ c ∧ c ≤ 'F' then c.toNat - 'A'.toNat + 10
    else base
  if value < base then some value else none

def readDigits (base : Nat) : Nat → Nat → List Char → Nat × List Char
  | 0, number, rest => (number, rest)
  | _ + 1, number, [] => (number, [])
  | count + 1, number, c :: rest =>
    match digitValue? base c with
    | some value => readDigits base count (number * base + value) rest
    | none => (number, c :: rest)

/-- Read a number in decimal, if the text is one. -/
def number? (text : List Char) : Option Nat :=
  match readDigits 10 text.length 0 text with
  | (number, []) => if text.isEmpty then none else some number
  | _ => none

end Toolbox
end CompilerRelay
