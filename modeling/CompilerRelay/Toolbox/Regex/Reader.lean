import CompilerRelay.Toolbox.Escape
import CompilerRelay.Toolbox.Regex

/-!
Reading regular expressions.

There are two ways to write them.  In the basic one the marks of groups, choices
and most repetitions stand behind a backslash, and a star or an anchor in a
place where it would mean nothing is a plain character.  In the extended one
the marks stand alone.
-/

namespace CompilerRelay
namespace Toolbox
namespace Regex

/-- What is left to read, and how many groups have begun. -/
structure Source where
  rest : List Char
  groups : Nat := 0
  deriving Repr

/-- Reading something from the front of an expression. -/
abbrev Reader (α : Type) := StateT Source Option α

namespace Reader

def rest : Reader (List Char) :=
  return (← get).rest

def goOnAt (rest : List Char) : Reader Unit :=
  modify fun source => { source with rest }

end Reader

/-- A character with a control key, in the number it has as a byte. -/
def controlChar (c : Char) : Char :=
  Char.ofNat (c.toUpper.toNat ^^^ 64)

/-- A character given by a letter or a number behind a backslash, and what
follows it. -/
def namedChar? (text : List Char) : Option (Char × List Char) :=
  let numbered (base count : Nat) (rest : List Char) : Option (Char × List Char) :=
    let read := readDigits base count 0 rest
    if read.2.length < rest.length then some (Char.ofNat (read.1 % 256), read.2) else none
  match text with
  | 'n' :: rest => some ('\n', rest)
  | 't' :: rest => some ('\t', rest)
  | 'a' :: rest => some (Char.ofNat 7, rest)
  | 'f' :: rest => some (Char.ofNat 12, rest)
  | 'r' :: rest => some ('\r', rest)
  | 'v' :: rest => some (Char.ofNat 11, rest)
  | 'c' :: c :: rest => some (controlChar c, rest)
  | 'd' :: rest => numbered 10 3 rest
  | 'o' :: rest => numbered 8 3 rest
  | 'x' :: rest => numbered 16 2 rest
  | _ => none

/-- A text in which characters given by a number stand themselves, with the
meaning they have in an expression. -/
def numbersResolved (text : List Char) : List Char :=
  go (text.length + 1) text
where
  go : Nat → List Char → List Char
    | 0, rest => rest
    | _, [] => []
    | bound + 1, '\\' :: c :: rest =>
      if c = 'x' ∨ c = 'd' ∨ c = 'o' ∨ c = 'c' then
        match namedChar? (c :: rest) with
        | some (named, after) => named :: go bound after
        | none => '\\' :: c :: go bound rest
      else '\\' :: c :: go bound rest
    | bound + 1, c :: rest => c :: go bound rest

/-- The next character between brackets, where only backslashes and characters
given by a letter or a number stand behind a backslash. -/
def nextMarked : List Char → Option ((Char × Bool) × List Char)
  | [] => none
  | '\\' :: '\\' :: rest => some (('\\', true), rest)
  | '\\' :: rest =>
    match namedChar? rest with
    | some (c, after) => some ((c, true), after)
    | none => some (('\\', false), rest)
  | c :: rest => some ((c, false), rest)

/-- The characters between brackets, that many at most. -/
def marked : Nat → List Char → CharSet.Marked
  | 0, _ => []
  | count + 1, text =>
    match nextMarked text with
    | none => []
    | some (next, rest) => next :: marked count rest

/-- What follows that many characters between brackets. -/
def behindMarked : Nat → List Char → List Char
  | 0, text => text
  | count + 1, text => (nextMarked text).elim [] fun next => behindMarked count next.2

/-- A set behind its opening bracket. -/
def readSet : Reader Regex := do
  let text ← Reader.rest
  let all := marked text.length text
  let (set, after) ← CharSet.read? '^' all
  Reader.goOnAt (behindMarked (all.length - after.length) text)
  return .oneOf set

/-- The bounds of a repetition behind its opening brace, up to what closes it. -/
def readBounds (closing : List Char) : Reader (Nat × Option Nat) := do
  let text ← Reader.rest
  let (least, rest) := readDigits 10 text.length 0 text
  let given := rest.length < text.length
  let (greatest, given, rest) : Option Nat × Bool × List Char := match rest with
    | ',' :: more =>
      let (greatest, after) := readDigits 10 more.length 0 more
      (if after.length < more.length then some greatest else none, true, after)
    | rest => (some least, given, rest)
  if given && closing.isPrefixOf rest && (greatest.all (least ≤ ·)) then do
    Reader.goOnAt (rest.drop closing.length)
    return (least, greatest)
  else none

/-- A repetition mark at the front, with the bounds it sets. -/
def readRepetition? (extended : Bool) : Reader (Option (Nat × Option Nat)) := do
  let found (least : Nat) (greatest : Option Nat) (rest : List Char) :
      Reader (Option (Nat × Option Nat)) := do
    Reader.goOnAt rest
    return some (least, greatest)
  match extended, ← Reader.rest with
  | _, '*' :: rest => found 0 none rest
  | true, '+' :: rest => found 1 none rest
  | true, '?' :: rest => found 0 (some 1) rest
  | true, '\x7b' :: rest => do
    Reader.goOnAt rest
    return some (← readBounds ['\x7d'])
  | false, '\\' :: '+' :: rest => found 1 none rest
  | false, '\\' :: '?' :: rest => found 0 (some 1) rest
  | false, '\\' :: '\x7b' :: rest => do
    Reader.goOnAt rest
    return some (← readBounds ['\\', '\x7d'])
  | _, _ => return none

/-- The repetitions behind a part; in the basic way there is one at most. -/
def readRepetitions (extended : Bool) : Nat → Regex → Reader Regex
  | 0, _ => none
  | bound + 1, inner => do
    match ← readRepetition? extended with
    | none => return inner
    | some (least, greatest) =>
      let repeated := Regex.times inner least greatest
      if extended then readRepetitions extended bound repeated
      else match ← readRepetition? extended with
        | none => return repeated
        | some _ => none

/-- The mark between the alternatives of a choice. -/
def choiceMark (extended : Bool) : List Char :=
  if extended then ['|'] else ['\\', '|']

def openingMark (extended : Bool) : List Char :=
  if extended then ['('] else ['\\', '(']

def closingMark (extended : Bool) : List Char :=
  if extended then [')'] else ['\\', ')']

/-- What stands for itself behind a backslash or has a meaning of its own there. -/
def readEscaped (rest : List Char) : Reader Regex := do
  let source ← get
  let word : CharSet := ⟨false, [('A', 'Z'), ('a', 'z'), ('0', '9'), ('_', '_')]⟩
  let space : CharSet := ⟨false, [(' ', ' '), ('\t', '\r')]⟩
  let found (regex : Regex) (rest : List Char) : Reader Regex := do
    Reader.goOnAt rest
    return regex
  match rest with
  | [] => none
  | 'w' :: more => found (.oneOf word) more
  | 'W' :: more => found (.oneOf { word with negated := true }) more
  | 's' :: more => found (.oneOf space) more
  | 'S' :: more => found (.oneOf { space with negated := true }) more
  | 'b' :: more => found .wordEdge more
  | 'B' :: more => found .noEdge more
  | '<' :: more => found .wordStart more
  | '>' :: more => found .wordEnd more
  | '\'' :: more => found .textEnd more
  | c :: more =>
    if c.toNat = 0x60 then found .textStart more
    else if c.isDigit ∧ c ≠ '0' then
      let number := c.toNat - '0'.toNat
      if number ≤ source.groups then found (.again number) more else none
    else match namedChar? rest with
      | some (named, after) => found (.oneOf (.single named)) after
      | none => found (.oneOf (.single c)) more

mutual

/-- Alternatives up to the end or to a closing mark. -/
def readChoice (extended : Bool) : Nat → Nat → Reader Regex
  | 0, _ => none
  | bound + 1, depth => do
    let first ← readSequence extended bound depth true
    let mark := choiceMark extended
    let rest ← Reader.rest
    if mark.isPrefixOf rest then do
      Reader.goOnAt (rest.drop mark.length)
      return .either first (← readChoice extended bound depth)
    else return first

/-- Parts in a row; the first one may be one that stands at the beginning. -/
def readSequence (extended : Bool) : Nat → Nat → Bool → Reader Regex
  | 0, _, _ => none
  | bound + 1, depth, first => do
    let rest ← Reader.rest
    if rest.isEmpty || (choiceMark extended).isPrefixOf rest then return .empty
    else if (closingMark extended).isPrefixOf rest then
      if depth = 0 then none else return .empty
    else if rest.head? = some '^' ∧ (extended ∨ first) then do
      Reader.goOnAt (rest.drop 1)
      return .both .lineStart (← readSequence extended bound depth true)
    else do
      let part ← readPart extended bound depth first
      if part.takesNothing then
        return .both part (← readSequence extended bound depth true)
      else
        let repeated ← readRepetitions extended rest.length part
        return .both repeated (← readSequence extended bound depth false)

/-- One part without its repetition. -/
def readPart (extended : Bool) : Nat → Nat → Bool → Reader Regex
  | 0, _, _ => none
  | bound + 1, depth, first => do
    let rest ← Reader.rest
    let opening := openingMark extended
    if opening.isPrefixOf rest then do
      let number := (← get).groups + 1
      set (⟨rest.drop opening.length, number⟩ : Source)
      let inner ← readChoice extended bound (depth + 1)
      let after ← Reader.rest
      let closing := closingMark extended
      if closing.isPrefixOf after then do
        Reader.goOnAt (after.drop closing.length)
        return .group number inner
      else none
    else match rest with
      | [] => none
      | c :: more =>
        let endsHere := more.isEmpty || (closingMark extended).isPrefixOf more
          || (choiceMark extended).isPrefixOf more
        Reader.goOnAt more
        match c with
        | '.' => return .oneOf .all
        | '[' => readSet
        | '$' => return if extended || endsHere then .lineEnd else .oneOf (.single '$')
        | '\\' =>
          if !extended && first && more.head? == some '\x7b' then none else readEscaped more
        | c =>
          if extended && (c == '*' || c == '+' || c == '?' || c == '\x7b') then none
          else return .oneOf (.single c)

end

def read? (extended ignoreCase multiline : Bool) (text : List Char) : Option Pattern := do
  let plain := numbersResolved text
  let (regex, source) ← (readChoice extended (4 * plain.length + 8) 0).run { rest := plain }
  if source.rest.isEmpty then some ⟨regex, source.groups, ignoreCase, multiline⟩ else none

end Regex
end Toolbox
end CompilerRelay
