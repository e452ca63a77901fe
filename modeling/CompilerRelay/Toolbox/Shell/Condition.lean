import CompilerRelay.Toolbox.FileTree
import CompilerRelay.Toolbox.Format

/-!
Conditions on texts, numbers and files.

Conditions are joined by marks, the tighter one first, and may stand between
parentheses.  With three words whose middle one compares, or with a mark of
denial before a short condition, the number of words says how they are read.
-/

namespace CompilerRelay
namespace Toolbox
namespace Shell

/-- A whole number in decimal, with blanks around it. -/
def decimal? (text : List Char) : Option Int :=
  let (negative, unsigned) := cutSign (text.dropWhile isBlankByte)
  let digits := unsigned.takeWhile Char.isDigit
  let value : Int := (readDigits 10 digits.length 0 digits).1
  let value := if negative then -value else value
  if digits.isEmpty || !(unsigned.drop digits.length).all isBlankByte then none
  else if -Word.size 63 ≤ value ∧ value < Word.size 63 then some value else none

/-- The complaint about a text that is no number. -/
def illegalNumber (text : List Char) : List Char :=
  "Illegal number: ".toList ++ text

namespace Condition

/-- What a word of a condition is. -/
inductive Token where
  | ended
  | operand
  | unary (letter : Char)
  | binary (name : String)
  | not
  | and
  | or
  | opening
  | closing
  deriving DecidableEq, Repr

/-- The letters of the conditions on one operand. -/
def unaryLetters : List Char :=
  "rwxefdcbpugkstznhOGLS".toList

/-- The comparisons of two operands. -/
def binaryNames : List String :=
  ["=", "!=", "<", ">", "-eq", "-ne", "-ge", "-gt", "-le", "-lt", "-nt", "-ot", "-ef"]

def isBinary (word : List Char) : Bool :=
  binaryNames.contains (String.ofList word)

/-- What the first of several words is.  A letter with nothing behind it, or
with a comparison behind it, is an operand. -/
def token : List (List Char) → Token
  | [] => .ended
  | word :: rest =>
    if isBinary word then .binary (String.ofList word)
    else match word with
      | ['!'] => .not
      | ['-', 'a'] => .and
      | ['-', 'o'] => .or
      | ['('] => if rest.isEmpty then .operand else .opening
      | [')'] => .closing
      | ['-', letter] =>
        if !unaryLetters.contains letter then .operand
        else match rest with
          | [] => .operand
          | [_] => .unary letter
          | next :: _ => if isBinary next then .operand else .unary letter
      | _ => .operand

/-- The words that are left, with the one that was read last. -/
structure Words where
  last : List Char
  rest : List (List Char)

/-- Reading a condition; a complaint says why it cannot be read. -/
abbrev Reader (α : Type) := StateT Words (Except (List Char)) α

/-- What the next word is. -/
def next : Reader Token :=
  return token (← get).rest

/-- Go on behind the next word. -/
def take : Reader (List Char) := do
  match (← get).rest with
  | [] => return []
  | word :: rest => do
    set (⟨word, rest⟩ : Words)
    return word

def numberOf (text : List Char) : Reader Int :=
  match decimal? text with
  | some value => return value
  | none => throw (illegalNumber text)

/-- Whether a comparison holds, given which paths lead to the same file. -/
def compares (same : List Char → List Char → Bool) (name : String) (a b : List Char) :
    Reader Bool := do
  let numbers (test : Int → Int → Bool) : Reader Bool := do
    let first ← numberOf a
    return test first (← numberOf b)
  match name with
  | "=" => return a == b
  | "!=" => return a != b
  | "<" => return decide (a < b)
  | ">" => return decide (b < a)
  | "-eq" => numbers (· == ·)
  | "-ne" => numbers (· != ·)
  | "-ge" => numbers (· ≥ ·)
  | "-gt" => numbers (· > ·)
  | "-le" => numbers (· ≤ ·)
  | "-lt" => numbers (· < ·)
  | "-ef" => return same a b
  | _ => return false

/-- Facts about files. -/
structure Facts where
  holds : Char → List Char → Bool
  same : List Char → List Char → Bool

/-- A condition on one operand. -/
def unaryHolds (facts : Facts) (letter : Char) (operand : List Char) : Bool :=
  match letter with
  | 'z' => operand.isEmpty
  | 'n' => !operand.isEmpty
  | 't' => false
  | _ => facts.holds letter operand

mutual

/-- Conditions of which one has to hold. -/
def anyOf (facts : Facts) (first : Token) : Nat → Reader Bool
  | 0 => return false
  | bound + 1 => do
    let left ← allOf facts first bound
    if (← next) = .or then do
      discard take
      let right ← anyOf facts (← next) bound
      return left || right
    else return left

/-- Conditions that all have to hold. -/
def allOf (facts : Facts) (first : Token) : Nat → Reader Bool
  | 0 => return false
  | bound + 1 => do
    let left ← denied facts first bound
    if (← next) = .and then do
      discard take
      let right ← allOf facts (← next) bound
      return left && right
    else return left

/-- A condition, perhaps denied. -/
def denied (facts : Facts) (first : Token) : Nat → Reader Bool
  | 0 => return false
  | bound + 1 => do
    if first = .not then do
      discard take
      return !(← denied facts (← next) bound)
    else basic facts first bound

/-- A condition of its own. -/
def basic (facts : Facts) (first : Token) : Nat → Reader Bool
  | 0 => return false
  | bound + 1 =>
    match first with
    | .ended => return false
    | .opening => do
      discard take
      let inner ← next
      if inner = .closing then do
        discard take
        return false
      else do
        let holds ← anyOf facts inner bound
        if (← next) = .closing then do
          discard take
          return holds
        else throw "closing paren expected".toList
    | .unary letter => do
      discard take
      return unaryHolds facts letter (← take)
    | _ => do
      let left ← take
      match ← next with
      | .binary name => do
        discard take
        if (← get).rest.isEmpty then throw (name.toList ++ ": argument expected".toList)
        compares facts.same name left (← take)
      | _ => return !left.isEmpty

end

/-- Read all words as one condition. -/
def whole (facts : Facts) (first : Token) (words : List (List Char)) :
    Except (List Char) Bool := do
  let (holds, left) ← (anyOf facts first (8 * words.length + 16)).run ⟨[], words⟩
  if left.rest.isEmpty then return holds
  else
    let about := if left.last.isEmpty then [] else left.last ++ [':', ' ']
    throw (about ++ "unexpected operator".toList)

def holds (facts : Facts) (words : List (List Char)) : Except (List Char) Bool :=
  go words.length words
where
  go : Nat → List (List Char) → Except (List Char) Bool
    | _, [] => return false
    | 0, words => whole facts (token words) words
    | bound + 1, words =>
      let comparison := match words with
        | [_, middle, _] => isBinary middle
        | _ => false
      let few := words.length = 3 ∨ words.length = 4
      if comparison then whole facts .operand words
      else if few ∧ words.head? = some ['('] ∧ words.getLast? = some [')'] then
        let inner := words.dropLast.drop 1
        whole facts (token inner) inner
      else if few ∧ words.head? = some ['!'] then
        return !(← go bound (words.drop 1))
      else whole facts (token words) words

end Condition

/-- The facts about files that are known, at a site. -/
def fileFacts (site : Site) : Condition.Facts where
  holds letter path :=
    let linked := knownLinks.any fun link =>
      Place.names path == Place.names link.1.toList
    let isLink := linked || match site.resolve path with
      | .ok (place, .stream _) => place.text == path
      | _ => false
    if letter = 'h' ∨ letter = 'L' then isLink
    else match (site.resolve path).toOption.map (·.2) with
      | none => false
      | some file =>
        match letter with
        | 'f' => (file matches .plain | .made _ | .program _)
        | 'd' => (file matches .directory)
        | 's' => file != .made [] && (file matches .directory | .plain | .made _ | .program _)
        | 'x' => (file matches .directory | .program _)
        | 'c' => (file matches .nothing | .device)
        | 'p' => (file matches .stream _)
        | 'b' => false
        | 'u' => false
        | 'g' => false
        | 'S' => false
        | 'k' =>
          (site.resolve path).toOption.any fun found =>
            found.1.text == "/tmp".toList || found.1.text == "/var/tmp".toList
              || found.1.text == "/dev/shm".toList
        | _ => true
  same a b :=
    match site.resolve a, site.resolve b with
    | .ok (first, _), .ok (second, _) => first == second
    | _, _ => false

end Shell
end Toolbox
end CompilerRelay
