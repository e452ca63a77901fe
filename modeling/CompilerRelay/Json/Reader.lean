import CompilerRelay.Json.Decoder

/-!
Reading JSON text.

A reader takes what is left of a text and yields a value and what is left
after it.  A complaint remembers how many bytes were left where it arose;
`Place.ofOffset` turns that into a line and a column of the whole text, so the
readers themselves carry no position.  Nesting is bounded by a depth, which is
also what the recursion runs on; the loops over items and members run on the
length of the text that is left, of which every turn reads some.
-/

namespace CompilerRelay

/-- What can be wrong with a text as JSON. -/
inductive JsonFault where
  | endInValue
  | endInString
  | endInList
  | endInObject
  | expectedColon
  | expectedListCommaOrEnd
  | expectedObjectCommaOrEnd
  | expectedIdent
  | expectedValue
  | invalidEscape
  | invalidNumber
  | numberOutOfRange
  | loneSurrogate
  | endInEscape
  | controlInString
  | keyMustBeString
  | trailingComma
  | trailingCharacters
  | recursionLimit
  deriving DecidableEq, Repr

namespace JsonFault

def message : JsonFault → String
  | endInValue => "EOF while parsing a value"
  | endInString => "EOF while parsing a string"
  | endInList => "EOF while parsing a list"
  | endInObject => "EOF while parsing an object"
  | expectedColon => "expected `:`"
  | expectedListCommaOrEnd => "expected `,` or `]`"
  | expectedObjectCommaOrEnd => "expected `,` or `\x7d`"
  | expectedIdent => "expected ident"
  | expectedValue => "expected value"
  | invalidEscape => "invalid escape"
  | invalidNumber => "invalid number"
  | numberOutOfRange => "number out of range"
  | loneSurrogate => "lone leading surrogate in hex escape"
  | endInEscape => "unexpected end of hex escape"
  | controlInString => "control character (\\u0000-\\u001F) found while parsing a string"
  | keyMustBeString => "key must be a string"
  | trailingComma => "trailing comma"
  | trailingCharacters => "trailing characters"
  | recursionLimit => "recursion limit exceeded"

end JsonFault

/-- Why reading stopped: the text is no JSON, or what it says is not wanted. -/
inductive ReadCause where
  | fault (fault : JsonFault)
  | complaint (complaint : DecodeError)
  deriving DecidableEq, Repr

/-- A complaint and the number of bytes that were left where it arose. -/
structure ReadError where
  cause : ReadCause
  left : Nat
  deriving DecidableEq, Repr

/-- A line, counted from one, and the number of bytes before a place on it. -/
structure Place where
  line : Nat
  column : Nat
  deriving DecidableEq, Repr

namespace Place

/-- Walk over a number of bytes of a text. -/
def advance (place : Place) : List Char → Nat → Place
  | [], _ => place
  | _ :: _, 0 => place
  | c :: rest, offset + 1 =>
    if c = '\n' then advance ⟨place.line + 1, 0⟩ rest offset
    else if offset < c.utf8Size then { place with column := place.column + offset + 1 }
    else advance { place with column := place.column + c.utf8Size } rest (offset + 1 - c.utf8Size)

/-- The place that many bytes into a text. -/
def ofOffset (text : List Char) (offset : Nat) : Place :=
  advance ⟨1, 0⟩ text offset

end Place

def byteCount (text : List Char) : Nat :=
  text.foldl (fun count c => count + c.utf8Size) 0

namespace ReadError

def message (error : ReadError) (text : List Char) : String :=
  let place := Place.ofOffset text (byteCount text - error.left)
  let what := match error.cause with
    | .fault fault => fault.message
    | .complaint complaint => complaint.message
  what ++ " at line " ++ toString place.line ++ " column " ++ toString place.column

end ReadError

/-- Something read from the front of a text. -/
abbrev Reader (α : Type) := StateT (List Char) (Except ReadError) α

namespace Reader

/-- Complain that many bytes further on, or at the end of the text. -/
def failAfter (bytes : Nat) (cause : ReadCause) : Reader α :=
  fun rest => .error ⟨cause, byteCount rest - bytes⟩

/-- Complain about the text before this point. -/
def failHere (fault : JsonFault) : Reader α :=
  failAfter 0 (.fault fault)

/-- Complain about the byte at this point. -/
def failAtNext (fault : JsonFault) : Reader α :=
  failAfter 1 (.fault fault)

/-- Complain about what was read before this point. -/
def refuse (complaint : DecodeError) : Reader α :=
  failAfter 0 (.complaint complaint)

def peek : Reader (Option Char) :=
  fun rest => .ok (rest.head?, rest)

def skip : Reader Unit :=
  fun rest => .ok ((), rest.drop 1)

def isSpace (c : Char) : Bool :=
  c == ' ' || c == '\n' || c == '\t' || c == '\r'

def skipSpaces : Reader Unit :=
  fun rest => .ok ((), rest.dropWhile isSpace)

/-- Leave out blanks and look at the character after them. -/
def peekToken : Reader (Option Char) := do
  skipSpaces
  peek

def isDigit (c : Char) : Bool :=
  '0' ≤ c && c ≤ '9'

def digitValue (c : Char) : Nat :=
  c.toNat - '0'.toNat

def digits : Reader (List Char) :=
  fun rest => .ok (rest.takeWhile isDigit, rest.dropWhile isDigit)

/-- Take digits into a number while it stays within a limit; the rest of them
is returned. -/
def absorb (limit : Nat) (number : Nat) : List Char → Nat × List Char
  | [] => (number, [])
  | digit :: rest =>
    let larger := number * 10 + digitValue digit
    if larger ≤ limit then absorb limit larger rest else (number, digit :: rest)

/-- The greatest significand. -/
def significandLimit : Nat := Word.size 64 - 1

/-- The greatest size of a written exponent. -/
def exponentLimit : Nat := Word.size 31 - 1

/-- A number that is not an integer. -/
def floatOf (negative : Bool) (significand : Nat) (exponent : Int) : Reader Json :=
  match Binary64.ofDecimal? negative significand exponent with
  | some value => pure (.float value)
  | none => failHere .numberOutOfRange

/-- The value of a number from its exponent mark on. -/
def exponentPart (negative : Bool) (significand : Nat) (exponent : Int) : Reader Json := do
  skip
  let down ← match ← peek with
    | some '+' => do skip; pure false
    | some '-' => do skip; pure true
    | _ => pure false
  match ← peek with
  | none => failHere .endInValue
  | some c =>
    if !isDigit c then failAtNext .invalidNumber
    else do
      let before ← get
      let written ← digits
      let (size, unread) := absorb exponentLimit 0 written
      if unread.isEmpty then
        floatOf negative significand (if down then exponent - size else exponent + size)
      else if significand ≠ 0 ∧ !down then do
        set before
        failAfter (written.length - unread.length + 1) (.fault .numberOutOfRange)
      else pure (.float (Binary64.zero negative))

/-- The value of a number from the character after its digits on. -/
def afterDigits (negative : Bool) (significand : Nat) (exponent : Int) : Reader Json := do
  match ← peek with
  | some 'e' => exponentPart negative significand exponent
  | some 'E' => exponentPart negative significand exponent
  | _ => floatOf negative significand exponent

/-- The value of a number from its decimal point on. -/
def fractionPart (negative : Bool) (significand : Nat) (exponent : Int) : Reader Json := do
  skip
  let written ← digits
  if written.isEmpty then
    match ← peek with
    | none => failHere .endInValue
    | some _ => failAtNext .invalidNumber
  else
    let (larger, unread) := absorb significandLimit significand written
    afterDigits negative larger (exponent - (written.length - unread.length : Nat))

/-- The value of an integer literal that fits a significand.  Zero with a sign
and what lies below the integers of 64 bits become floating point numbers. -/
def wholeNumber (negative : Bool) (significand : Nat) : Reader Json :=
  if !negative then pure (.int significand)
  else if significand = 0 ∨ Word.size 63 < significand then floatOf true significand 0
  else pure (.int (-(significand : Int)))

/-- A number, after its sign. -/
def number (negative : Bool) : Reader Json := do
  match ← peek with
  | none => failHere .endInValue
  | some c =>
    if !isDigit c then failAtNext .invalidNumber
    else do
      let before ← get
      let written ← digits
      if c = '0' ∧ 1 < written.length then do
        set before
        failAfter 2 (.fault .invalidNumber)
      else
        let (significand, unread) := absorb significandLimit 0 written
        match ← peek with
        | some '.' => fractionPart negative significand unread.length
        | some 'e' => exponentPart negative significand unread.length
        | some 'E' => exponentPart negative significand unread.length
        | _ =>
          if unread.isEmpty then wholeNumber negative significand
          else floatOf negative significand unread.length

/-- The rest of a fixed word. -/
def word (value : Json) : List Char → Reader Json
  | [] => pure value
  | expected :: more => do
    match ← peek with
    | none => failHere .endInValue
    | some c => if c = expected then do skip; word value more else failAtNext .expectedIdent

def hexValue? (c : Char) : Option Nat :=
  if isDigit c then some (digitValue c)
  else if 'a' ≤ c ∧ c ≤ 'f' then some (c.toNat - 'a'.toNat + 10)
  else if 'A' ≤ c ∧ c ≤ 'F' then some (c.toNat - 'A'.toNat + 10)
  else none

/-- The number four characters write in hexadecimal. -/
def hexNumber? (a b c d : Char) : Option Nat := do
  return (((← hexValue? a) * 16 + (← hexValue? b)) * 16 + (← hexValue? c)) * 16 + (← hexValue? d)

/-- Four hexadecimal digits at the front of a text. -/
def hexFour (rest : List Char) : Except ReadError (Nat × List Char) :=
  if byteCount rest < 4 then .error ⟨.fault .endInString, 0⟩
  else match rest with
    | a :: b :: c :: d :: more =>
      match hexNumber? a b c d with
      | some unit => .ok (unit, more)
      | none => .error ⟨.fault .invalidEscape, byteCount rest - 4⟩
    | _ => .error ⟨.fault .invalidEscape, byteCount rest - 4⟩

def isHighSurrogate (unit : Nat) : Bool :=
  0xD800 ≤ unit && unit ≤ 0xDBFF

def isLowSurrogate (unit : Nat) : Bool :=
  0xDC00 ≤ unit && unit ≤ 0xDFFF

/-- The second half of an escaped pair, given the first. -/
def lowHalf (high : Nat) (rest : List Char) : Except ReadError (Char × List Char) :=
  match rest with
  | [] => .error ⟨.fault .endInString, 0⟩
  | '\\' :: [] => .error ⟨.fault .endInString, 0⟩
  | '\\' :: 'u' :: more => do
    let (low, after) ← hexFour more
    if isLowSurrogate low then
      return (Char.ofNat ((high - 0xD800) * 0x400 + (low - 0xDC00) + 0x10000), after)
    else throw ⟨.fault .loneSurrogate, byteCount after⟩
  | '\\' :: more => .error ⟨.fault .endInEscape, byteCount more - 1⟩
  | more => .error ⟨.fault .endInEscape, byteCount more - 1⟩

/-- A character given by its code in hexadecimal, after the mark. -/
def codeEscape (rest : List Char) : Except ReadError (Char × List Char) := do
  let (unit, after) ← hexFour rest
  if isLowSurrogate unit then throw ⟨.fault .loneSurrogate, byteCount after⟩
  else if isHighSurrogate unit then lowHalf unit after
  else return (Char.ofNat unit, after)

/-- An escaped character, after the backslash. -/
def escape (rest : List Char) : Except ReadError (Char × List Char) :=
  match rest with
  | [] => .error ⟨.fault .endInString, 0⟩
  | '"' :: more => .ok ('"', more)
  | '\\' :: more => .ok ('\\', more)
  | '/' :: more => .ok ('/', more)
  | 'b' :: more => .ok ('\x08', more)
  | 'f' :: more => .ok ('\x0c', more)
  | 'n' :: more => .ok ('\n', more)
  | 'r' :: more => .ok ('\r', more)
  | 't' :: more => .ok ('\t', more)
  | 'u' :: more => codeEscape more
  | more => .error ⟨.fault .invalidEscape, byteCount more - 1⟩

/-- The characters of a string up to its closing quote, which is read too.
The bound is a number of characters that are enough. -/
def stringBody : Nat → List Char → Except ReadError (List Char × List Char)
  | 0, rest => .error ⟨.fault .endInString, byteCount rest⟩
  | _ + 1, [] => .error ⟨.fault .endInString, 0⟩
  | bound + 1, c :: rest =>
    if c = '"' then .ok ([], rest)
    else if c = '\\' then do
      let (escaped, after) ← escape rest
      let (body, after) ← stringBody bound after
      return (escaped :: body, after)
    else if c.toNat < 0x20 then .error ⟨.fault .controlInString, byteCount rest⟩
    else do
      let (body, after) ← stringBody bound rest
      return (c :: body, after)

/-- A string, after its opening quote. -/
def string : Reader String :=
  fun rest => (stringBody (rest.length + 1) rest).map fun read => (String.ofList read.1, read.2)

/-- The items from one that is known to be there up to the closing bracket,
which stays unread. -/
def itemsFrom (item : Reader α) : Nat → Reader (List α)
  | 0 => failHere .endInList
  | bound + 1 => do
    let first ← item
    match ← peekToken with
    | none => failHere .endInList
    | some ']' => pure [first]
    | some ',' => do
      skip
      match ← peekToken with
      | none => failHere .endInValue
      | some ']' => failAtNext .trailingComma
      | some _ => do
        let others ← itemsFrom item bound
        pure (first :: others)
    | some _ => failAtNext .expectedListCommaOrEnd

/-- The items of an array, after its opening bracket. -/
def items (item : Reader α) : Reader (List α) := do
  match ← peekToken with
  | none => failHere .endInList
  | some ']' => pure []
  | some _ => do
    let rest ← get
    itemsFrom item rest.length

/-- The members from one whose name is known to begin here up to the closing
brace, which stays unread.  The step is given what was gathered so far and a
name, and reads from the colon on. -/
def membersFrom (step : σ → String → Reader σ) : Nat → σ → Reader σ
  | 0, _ => failHere .endInObject
  | bound + 1, gathered => do
    skip
    let name ← string
    let gathered ← step gathered name
    match ← peekToken with
    | none => failHere .endInObject
    | some '\x7d' => pure gathered
    | some ',' => do
      skip
      match ← peekToken with
      | none => failHere .endInValue
      | some '"' => membersFrom step bound gathered
      | some '\x7d' => failAtNext .trailingComma
      | some _ => failAtNext .keyMustBeString
    | some _ => failAtNext .expectedObjectCommaOrEnd

/-- The members of an object, after its opening brace. -/
def members (step : σ → String → Reader σ) (start : σ) : Reader σ := do
  match ← peekToken with
  | none => failHere .endInObject
  | some '\x7d' => pure start
  | some '"' => do
    let rest ← get
    membersFrom step rest.length start
  | some _ => failAtNext .keyMustBeString

/-- The colon between a name and its value. -/
def colon : Reader Unit := do
  match ← peekToken with
  | none => failHere .endInObject
  | some ':' => skip
  | some _ => failAtNext .expectedColon

/-- A value whose containers are read by another reader, which is given the
opening bracket or brace and finds it unread. -/
def valueWith (container : Char → Reader Json) : Reader Json := do
  match ← peekToken with
  | none => failHere .endInValue
  | some 'n' => do skip; word .null ['u', 'l', 'l']
  | some 't' => do skip; word (.bool true) ['r', 'u', 'e']
  | some 'f' => do skip; word (.bool false) ['a', 'l', 's', 'e']
  | some '-' => do skip; number true
  | some '"' => do
    skip
    let text ← string
    pure (.str text)
  | some '[' => container '['
  | some '\x7b' => container '\x7b'
  | some c => if isDigit c then number false else failAtNext .expectedValue

/-- Gather a member of an object, the latest first. -/
def gatherMember (value : Reader Json) (gathered : List (String × Json)) (name : String) :
    Reader (List (String × Json)) := do
  colon
  let content ← value
  pure ((name, content) :: gathered)

/-- A container whose parts are read by another reader; its members make an
object as the first argument says. -/
def container (object : List (String × Json) → Json) (value : Reader Json) (opening : Char) :
    Reader Json := do
  skip
  if opening = '[' then do
    let elements ← items value
    skip
    pure (.arr elements)
  else do
    let gathered ← members (gatherMember value) []
    skip
    pure (object gathered.reverse)

/-- A value nested at most that deep, whose objects are made of their members as
the first argument says. -/
def valueMaking (object : List (String × Json) → Json) : Nat → Reader Json
  | 0 => valueWith fun _ => failAtNext .recursionLimit
  | depth + 1 => valueWith (container object (valueMaking object depth))

/-- A value nested at most that deep. -/
def value : Nat → Reader Json :=
  valueMaking Json.ofMembers

/-- The deepest nesting that is read. -/
def depthLimit : Nat := 127

/-- A value whose objects hold all their members in the order they are
written, also those of one name. -/
def written : Reader Json :=
  valueMaking Json.obj depthLimit

/-- The end of a text, but for blanks. -/
def finish : Reader Unit := do
  match ← peekToken with
  | none => pure ()
  | some _ => failAtNext .trailingCharacters

/-- A text that holds one value and nothing else. -/
def document : Reader Json := do
  let read ← value depthLimit
  finish
  pure read

end Reader

namespace Json

def parse (text : List Char) : Except ReadError Json :=
  (Reader.document.run text).map Prod.fst

/-- Read a text that holds one value, where the reason for refusing it does
not matter. -/
def parse? (text : List Char) : Option Json :=
  (parse text).toOption

/-- The value a text begins with, as it is written, and what is behind it. -/
def beginning? (text : List Char) : Option (Json × List Char) :=
  (Reader.written.run text).toOption

end Json
end CompilerRelay
