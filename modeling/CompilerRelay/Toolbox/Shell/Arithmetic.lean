import CompilerRelay.Toolbox.Format
import CompilerRelay.Toolbox.Shell.Syntax

/-!
Sums of the shell.

Expressions are made of whole numbers of 64 bits, which wrap around, of
variables and of operators.  An assignment has a value and takes effect; a part
of a choice or condition that is not needed has none.  An expression that cannot
be read to its end is computed as far as it goes, and then the fault is met.
-/

namespace CompilerRelay
namespace Toolbox
namespace Shell

/-- An operator between two operands. -/
inductive BinaryOperator where
  | times | divide | remainder
  | plus | minus
  | shiftLeft | shiftRight
  | less | atMost | greater | atLeast
  | equal | unequal
  | bitAnd | bitXor | bitOr
  deriving DecidableEq, Repr

namespace BinaryOperator

/-- The operators with their marks and how tightly they bind. -/
def all : List (String × BinaryOperator × Nat) :=
  [("*", times, 10), ("/", divide, 10), ("%", remainder, 10), ("+", plus, 9), ("-", minus, 9),
    ("<<", shiftLeft, 8), (">>", shiftRight, 8), ("<=", atMost, 7), (">=", atLeast, 7),
    ("<", less, 7), (">", greater, 7), ("==", equal, 6), ("!=", unequal, 6), ("&", bitAnd, 5),
    ("^", bitXor, 4), ("|", bitOr, 3)]

end BinaryOperator

/-- Why an expression has no value. -/
inductive SumFault where
  | divisionByZero
  /-- An operand is missing. -/
  | noOperand
  /-- Something stands behind the expression. -/
  | notAtEnd
  /-- A mark is missing. -/
  | noMark (mark : Char)
  /-- The value of a variable is no number. -/
  | badNumber (text : List Char)
  deriving Repr

/-- An expression. -/
inductive Sum where
  | number (value : Int)
  | variable (name : List Char)
  | negative (operand : Sum)
  | not (operand : Sum)
  | complement (operand : Sum)
  | binary (operator : BinaryOperator) (left right : Sum)
  | both (left right : Sum)
  | either (left right : Sum)
  | choose (condition consequence alternative : Sum)
  | assign (name : List Char) (operator : Option BinaryOperator) (value : Sum)
  /-- Behind an expression it goes wrong. -/
  | broken (before : Sum) (fault : SumFault)
  deriving Repr

namespace SumFault

def message (expression : List Char) : SumFault → List Char
  | badNumber text => "Illegal number: ".toList ++ text
  | divisionByZero => about "division by zero"
  | noOperand => about "expecting primary"
  | notAtEnd => about "expecting EOF"
  | noMark mark => about ("expecting '" ++ String.ofList [mark] ++ "'")
where
  about (reason : String) : List Char :=
    "arithmetic expression: ".toList ++ reason.toList ++ ": \"".toList ++ expression ++ ['"']

end SumFault

namespace Sum

/-! ## Reading -/

/-- Reading something from the front of an expression. -/
abbrev Reader (α : Type) := StateM (List Char) α

/-- An operand is missing here. -/
def missing : Sum :=
  .broken (.number 0) .noOperand

def skipBlanks : Reader Unit :=
  modify (·.dropWhile isBlankByte)

/-- Go on behind a mark, if it is there. -/
def take? (mark : String) : Reader Bool := do
  skipBlanks
  let text ← get
  if mark.toList.isPrefixOf text then do
    set (text.drop mark.length)
    return true
  else return false

/-- The operator at the front that binds at least that tightly, with how tightly
it does. -/
def operatorAt? (text : List Char) (least : Nat) : Option (BinaryOperator × Nat × Nat) :=
  let doubled := ["&&", "||"].any fun mark => mark.toList.isPrefixOf text
  match BinaryOperator.all.filter fun entry => entry.1.toList.isPrefixOf text with
  | [] => none
  | first :: others =>
    let longest := others.foldl (fun best entry =>
      if best.1.length < entry.1.length then entry else best) first
    let assigns := (text.drop longest.1.length).head? == some '='
      && !(["<=", ">=", "==", "!=", "<", ">"].contains longest.1)
    if doubled || assigns || longest.2.2 < least then none
    else some (longest.2.1, longest.2.2, longest.1.length)

/-- An assignment mark at the front, with its operator and its length. -/
def assignmentAt? (text : List Char) : Option (Option BinaryOperator × Nat) :=
  let compound := BinaryOperator.all.findSome? fun (mark, operator, _) =>
    if !(["<", ">", "<=", ">=", "==", "!="].contains mark)
        && (mark ++ "=").toList.isPrefixOf text then
      some (some operator, mark.length + 1)
    else none
  match compound with
  | some found => some found
  | none =>
    match text with
    | '=' :: '=' :: _ => none
    | '=' :: _ => some (none, 1)
    | _ => none

mutual

/-- An assignment or a choice. -/
def expression : Nat → Reader Sum
  | 0 => return missing
  | bound + 1 => do
    skipBlanks
    let text ← get
    let name := text.takeWhile isNameChar
    let behind := (text.drop name.length).dropWhile isBlankByte
    match isName name, assignmentAt? behind with
    | true, some (operator, size) => do
      set (behind.drop size)
      return .assign name operator (← expression bound)
    | _, _ => do
      let condition ← eitherOf bound
      if ← take? "?" then do
        let consequence ← expression bound
        if ← take? ":" then return .choose condition consequence (← expression bound)
        else return .choose condition (.broken consequence (.noMark ':')) (.number 0)
      else return condition

/-- Conditions of which one has to hold. -/
def eitherOf : Nat → Reader Sum
  | 0 => return missing
  | bound + 1 => do
    let left ← bothOf bound
    if ← take? "||" then return .either left (← eitherOf bound) else return left

/-- Conditions that all have to hold. -/
def bothOf : Nat → Reader Sum
  | 0 => return missing
  | bound + 1 => do
    let left ← operand bound
    let left ← operations 0 left bound
    if ← take? "&&" then return .both left (← bothOf bound) else return left

/-- Operators that bind at least that tightly, behind their first operand. -/
def operations (least : Nat) (left : Sum) : Nat → Reader Sum
  | 0 => return missing
  | bound + 1 => do
    skipBlanks
    match operatorAt? (← get) least with
    | none => return left
    | some (operator, tightness, size) => do
      modify (·.drop size)
      let right ← operand bound
      let right ← operations (tightness + 1) right bound
      operations least (.binary operator left right) bound

/-- An operand with the marks before it. -/
def operand : Nat → Reader Sum
  | 0 => return missing
  | bound + 1 => do
    skipBlanks
    match ← get with
    | '-' :: rest => do
      set rest
      return .negative (← operand bound)
    | '+' :: rest => do
      set rest
      operand bound
    | '!' :: rest =>
      if rest.head? = some '=' then return missing
      else do
        set rest
        return .not (← operand bound)
    | '~' :: rest => do
      set rest
      return .complement (← operand bound)
    | '(' :: rest => do
      set rest
      let inner ← expression bound
      if ← take? ")" then return inner else return .broken inner (.noMark ')')
    | c :: rest =>
      if c.isDigit then do
        let (magnitude, after) := readMagnitude (c :: rest)
        set after
        return .number (min (magnitude : Int) (Word.size 63 - 1))
      else if isNameStart c then do
        let name := (c :: rest).takeWhile isNameChar
        set ((c :: rest).drop name.length)
        return .variable name
      else return missing
    | [] => return missing

end

def read (text : List Char) : Sum :=
  let (sum, rest) := (expression (8 * text.length + 16)).run text
  if rest.all isBlankByte then sum else .broken sum .notAtEnd

/-! ## Values -/

/-- A number wrapped around to 64 bits. -/
def wrapped (value : Int) : Int :=
  value.bmod (Word.size 64)

/-- The bits of a number. -/
def bits (value : Int) : Nat :=
  (value % Word.size 64).toNat

def ofBool (holds : Bool) : Int :=
  if holds then 1 else 0

def apply (operator : BinaryOperator) (a b : Int) : Except SumFault Int :=
  match operator with
  | .times => .ok (wrapped (a * b))
  | .divide => if b = 0 then .error .divisionByZero else .ok (wrapped (Int.tdiv a b))
  | .remainder => if b = 0 then .error .divisionByZero else .ok (wrapped (Int.tmod a b))
  | .plus => .ok (wrapped (a + b))
  | .minus => .ok (wrapped (a - b))
  | .shiftLeft => .ok (wrapped (a * Nat.pow 2 (bits b % 64)))
  | .shiftRight => .ok (a / Nat.pow 2 (bits b % 64))
  | .less => .ok (ofBool (a < b))
  | .atMost => .ok (ofBool (a ≤ b))
  | .greater => .ok (ofBool (b < a))
  | .atLeast => .ok (ofBool (b ≤ a))
  | .equal => .ok (ofBool (a = b))
  | .unequal => .ok (ofBool (a ≠ b))
  | .bitAnd => .ok (wrapped (bits a &&& bits b : Nat))
  | .bitXor => .ok (wrapped (bits a ^^^ bits b : Nat))
  | .bitOr => .ok (wrapped (bits a ||| bits b : Nat))

/-- The value of a text as a number; a blank one is zero. -/
def ofText (text : List Char) : Except SumFault Int :=
  let (isNegative, digits) := cutSign (text.dropWhile isBlankByte)
  let (magnitude, rest) := readMagnitude digits
  let value : Int := if isNegative then -(magnitude : Int) else magnitude
  let fits := -Word.size 63 ≤ value && decide (value < Word.size 63)
  if rest.length < digits.length && rest.all isBlankByte && fits then .ok value
  else if text.all isBlankByte then .ok 0 else .error (.badNumber text)

/-- The fault of an expression that is not computed, if it has one. -/
def fault? : Sum → Option SumFault
  | .number _ => none
  | .variable _ => none
  | .negative operand => fault? operand
  | .not operand => fault? operand
  | .complement operand => fault? operand
  | .binary _ left right => fault? left <|> fault? right
  | .both left right => fault? left <|> fault? right
  | .either left right => fault? left <|> fault? right
  | .choose condition consequence alternative =>
    fault? condition <|> fault? consequence <|> fault? alternative
  | .assign _ _ value => fault? value
  | .broken before fault => fault? before <|> some fault

/-- Pass over an expression that is not computed. -/
def pass (sum : Sum) : Except SumFault Unit :=
  sum.fault?.elim (.ok ()) .error

/-- The values that variables were given, the latest first. -/
abbrev Assigned := List (List Char × Int)

/-- The value of an expression, given the texts of variables. -/
def evaluate (value : List Char → List Char) : Sum → StateT Assigned (Except SumFault) Int
  | .number value => return value
  | .variable name => do
    match (← get).lookup name with
    | some given => return given
    | none => liftM (ofText (value name))
  | .negative operand => return wrapped (-(← evaluate value operand))
  | .not operand => return ofBool ((← evaluate value operand) = 0)
  | .complement operand => return -(← evaluate value operand) - 1
  | .binary operator left right => do
    let a ← evaluate value left
    let b ← evaluate value right
    liftM (apply operator a b)
  | .both left right => do
    if (← evaluate value left) = 0 then do
      liftM right.pass
      return 0
    else return ofBool ((← evaluate value right) ≠ 0)
  | .either left right => do
    if (← evaluate value left) ≠ 0 then do
      liftM right.pass
      return 1
    else return ofBool ((← evaluate value right) ≠ 0)
  | .choose condition consequence alternative => do
    if (← evaluate value condition) ≠ 0 then do
      let result ← evaluate value consequence
      liftM alternative.pass
      return result
    else do
      liftM consequence.pass
      evaluate value alternative
  | .broken before fault => do
    discard (evaluate value before)
    throw fault
  | .assign name operator right => do
    let b ← evaluate value right
    let result ← match operator with
      | none => pure b
      | some operator => do
        let a ← match (← get).lookup name with
          | some given => pure given
          | none => liftM (ofText (value name))
        liftM (apply operator a b)
    modify ((name, result) :: ·)
    return result

end Sum

def signedText (value : Int) : List Char :=
  (if value < 0 then ['-'] else []) ++ Nat.toDigits 10 value.natAbs

end Shell
end Toolbox
end CompilerRelay
