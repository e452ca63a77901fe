import CompilerRelay.Toolbox.Glob
import CompilerRelay.Toolbox.Shell.Arithmetic
import CompilerRelay.Toolbox.Shell.State

/-!
What words become.

A word is expanded letter by letter.  A letter remembers whether it was quoted,
so that it means only itself in a pattern, and whether it may part fields: only
what comes from values does.  Quotes leave a mark, since a quoted word is a
field even if nothing is in it.
-/

namespace CompilerRelay
namespace Toolbox
namespace Shell

/-- A part of an expanded word. -/
inductive Letter where
  | char (c : Char) (quoted cuts : Bool)
  /-- There is a field here, even if it is empty. -/
  | present
  /-- One field ends here and another one begins. -/
  | border
  deriving DecidableEq, Repr

def lettersOf (quoted cuts : Bool) (chars : List Char) : List Letter :=
  chars.map (.char · quoted cuts)

def textOf (letters : List Letter) : List Char :=
  letters.filterMap fun
    | .char c _ _ => some c
    | _ => none

/-- An expanded word as a pattern. -/
def patternOf (letters : List Letter) : List GlobPart :=
  globParts <| letters.filterMap fun
    | .char c quoted _ => some (c, quoted)
    | _ => none

/-! ## Fields -/

/-- Fields that are being cut out of letters. -/
structure Cutting where
  /-- The fields so far, the last one first. -/
  fields : List (List Char) := []
  /-- The field that is being read, backwards. -/
  field : List Char := []
  /-- There is a field that is being read. -/
  started : Bool := false
  /-- Blanks ended the last field, and another mark may belong to them. -/
  afterBlanks : Bool := false

namespace Cutting

/-- End the field that is being read. -/
def close (c : Cutting) (afterBlanks : Bool) : Cutting :=
  { fields := c.field.reverse :: c.fields, afterBlanks }

def isBlank (c : Char) : Bool :=
  c == ' ' || c == '\t' || c == '\n'

/-- Read a letter.  Blanks part fields together; every other mark ends a field,
with the blanks around it. -/
def add (separators : List Char) (c : Cutting) : Letter → Cutting
  | .present => { c with started := true }
  | .border => if c.started then c.close false else { c with afterBlanks := false }
  | .char letter _ cuts =>
    if !(cuts && separators.contains letter) then
      { c with field := letter :: c.field, started := true, afterBlanks := false }
    else if isBlank letter then (if c.started then c.close true else c)
    else if c.started then c.close false
    else if c.afterBlanks then { c with afterBlanks := false }
    else c.close false

end Cutting

/-- Cut letters into fields. -/
def cutFields (separators : List Char) (letters : List Letter) : List (List Char) :=
  let cut := letters.foldl (Cutting.add separators) {}
  (if cut.started then cut.close false else cut).fields.reverse

/-! ## Parameters -/

/-- The number by which the shell can be told to end.  Which one it is makes no
difference to a script. -/
def ownNumber : Nat := 2000

/-- The letters of options in the order in which they are shown. -/
def optionOrder : List Char :=
  "ubaCEVvxsnmiIfe".toList

/-- The text of a parameter that is not a list, if it has one. -/
def parameter? (s : State) (name : List Char) : Option (List Char) :=
  let decimal := Nat.toDigits 10
  match name with
  | ['?'] => some (decimal s.status)
  | ['#'] => some (decimal s.arguments.length)
  | ['$'] => some (decimal ownNumber)
  | ['!'] => s.tasks.head?.map fun task => decimal task.number
  | ['-'] => some (optionOrder.filter s.hasOption)
  | _ =>
    match number? name with
    | some 0 => some s.name
    | some position => s.arguments[position - 1]?
    | none => s.value? name

/-- Whether a parameter stands for all arguments. -/
def listsAll (name : List Char) : Bool :=
  name == ['@'] || name == ['*']

/-- What is between arguments that are joined. -/
def joint (s : State) : List Char :=
  ((s.value? "IFS".toList).getD [' ']).take 1

/-- The text of a parameter, where arguments are joined. -/
def joined? (s : State) (name : List Char) : Option (List Char) :=
  if listsAll name then some ((joint s).intercalate s.arguments) else parameter? s name

/-- The letters of a parameter's value.  Where fields are wanted, arguments are
fields of their own, unless they are asked for as one text. -/
def valueLetters (s : State) (fields quoted : Bool) (name : List Char) : List Letter :=
  if fields && listsAll name && (!quoted || name == ['@']) then
    [Letter.border].intercalate <| s.arguments.map fun argument =>
      (if quoted then [.present] else []) ++ lettersOf quoted (!quoted) argument
  else lettersOf quoted (!quoted) ((joined? s name).getD [])

/-- Whether a parameter has a value, and one that is not empty if asked. -/
def hasValue (s : State) (nonempty : Bool) (name : List Char) : Bool :=
  match joined? s name with
  | none => false
  | some text => !(nonempty && text.isEmpty)

/-- Complain about a parameter without a value, if that is not allowed. -/
def demandValue (name : List Char) : Act Unit := do
  let s ← get
  if s.hasOption 'u' && !hasValue s false name then
    fail (name ++ ": parameter not set".toList)

/-! ## Parts of words -/

/-- Carry something out apart, as a shell of its own would: what it writes, reads
and makes remains, and its status.  Says why it stopped, if that concerns
others.  If nothing is left to do behind it, the shell itself carries it out. -/
def apart (inPlace : Bool) (prepare : State → State) (act : Act Unit) : Act (Option Stop) := do
  let s := (← get).settled
  let ignored := s.traps.filter fun trap => trap.2.isEmpty
  let (result, after) := act.run (prepare { s with traps := ignored, final := true })
  let after := after.settled
  let blocked := result matches .error .blocked
  let started := after.tasks.filter fun task => !s.tasks.any (·.number == task.number)
  set { s with
    streams := if inPlace && blocked then after.streams else s.streams
    inflows := after.inflows
    written := after.written
    sinks := after.sinks
    files := after.files
    strangers := after.strangers ++ { after with tasks := started, strangers := [] }.background
    status := after.status % 256 }
  return match result with
    | .error .blocked => some .blocked
    | .error .exhausted => some .exhausted
    | .error .killed => some .killed
    | _ => none

/-- The output of a command, without the line ends at its end. -/
def outputOf (run : Runner) (command : Command) : Act (List Char) := do
  let before := (← get).status
  let sink ← newSink
  let stop ← apart false (fun s => { s with tested := false }.withStream 1 (some (.sink sink)))
    (run (.subshell command))
  let text ← takeWritten sink
  match stop with
  | some stop => throw stop
  | none => do
    if (← get).holds (.sink sink) then throw .blocked
    modify fun s => { s with substituted := s.status, status := before }
    return ((text.filter (·.toNat != 0)).reverse.dropWhile (· == '\n')).reverse

/-- The value of a sum; what it assigns is assigned. -/
def valueOfSum (expression : List Char) : Act Int := do
  let s ← get
  let value (name : List Char) : List Char := (parameter? s name).getD []
  let found := ((Sum.read expression).evaluate value).run []
  match found with
  | .error fault => fail (fault.message expression)
  | .ok (value, assigned) => do
    for (name, number) in assigned.reverse do assign name (signedText number)
    return value

/-- The directory that a tilde stands for, with the name behind it. -/
def homeOf? (s : State) (name : List Char) : Option (List Char) :=
  if name.isEmpty then s.value? "HOME".toList
  else if name = "root".toList then some "/root".toList else none

/-- The letters of plain text at the beginning of a word, or behind a colon in an
assignment, where a tilde may stand for a directory. -/
def homeLetters (s : State) (assigned ends : Bool) (text : List Char) : List Letter :=
  go (text.length + 1) text
where
  isEnd (c : Char) : Bool := c == '/' || (assigned && c == ':')
  go : Nat → List Char → List Letter
    | 0, text => lettersOf false false text
    | bound + 1, text =>
      let (letters, text) := match text with
        | '~' :: rest =>
          let name := rest.takeWhile (!isEnd ·)
          match name.length < rest.length || ends, homeOf? s name with
          | true, some home => (lettersOf true false home, rest.drop name.length)
          | _, _ => ([], text)
        | _ => ([], text)
      let plain := if assigned then text.takeWhile (· != ':') else text
      match text.drop plain.length with
      | [] => letters ++ lettersOf false false plain
      | colon :: rest => letters ++ lettersOf false false (plain ++ [colon]) ++ go bound rest

mutual

/-- Expand a part of a word.  In what stands in for a value, plain text parts
fields too. -/
def expandPiece (run : Runner) (fields operand : Bool) : Piece → Act (List Letter)
  | .text chars quoted =>
    return (if quoted then [.present] else []) ++ lettersOf quoted (operand && !quoted) chars
  | .output command quoted => do
    return lettersOf quoted (!quoted) (← outputOf run command)
  | .sum expression quoted => do
    let letters ← expandPieces run false false expression
    return lettersOf quoted (!quoted) (signedText (← valueOfSum (textOf letters)))
  | .parameter name operation substitute quoted => do
    let s ← get
    let value := valueLetters s fields quoted name
    match operation with
    | .unknown => fail "Bad substitution".toList
    | .value => do
      demandValue name
      return value
    | .length => do
      demandValue name
      return lettersOf quoted (!quoted) (Nat.toDigits 10 ((joined? s name).getD []).length)
    | .orElse alsoEmpty =>
      if hasValue s alsoEmpty name then return value
      else expandPieces run fields (!quoted) substitute
    | .instead alsoEmpty =>
      if hasValue s alsoEmpty name then expandPieces run fields (!quoted) substitute
      else return []
    | .orAssign alsoEmpty =>
      if hasValue s alsoEmpty name then return value
      else do
        let text := textOf (← expandPieces run false false substitute)
        assign name text
        return lettersOf quoted (!quoted) text
    | .orFail alsoEmpty =>
      if hasValue s alsoEmpty name then return value
      else do
        let text := textOf (← expandPieces run false false substitute)
        let reason := if text.isEmpty then
            (if alsoEmpty then "parameter not set or null" else "parameter not set").toList
          else text
        fail (name ++ ": ".toList ++ reason)
    | .strip fromStart longest => do
      demandValue name
      let pattern ← expandPieces run false false substitute
      return lettersOf quoted (!quoted)
        (globStrip fromStart longest (patternOf pattern) ((joined? s name).getD []))

def expandPieces (run : Runner) (fields operand : Bool) : List Piece → Act (List Letter)
  | [] => return []
  | piece :: rest => do
    let first ← expandPiece run fields operand piece
    return first ++ (← expandPieces run fields operand rest)

end

def expand (run : Runner) (fields assigned : Bool) (word : Word) : Act (List Letter) := do
  match word with
  | .text chars false :: rest => do
    let first := homeLetters (← get) assigned rest.isEmpty chars
    return first ++ (← expandPieces run fields false rest)
  | word => expandPieces run fields false word

/-- A word as one text. -/
def expandText (run : Runner) (word : Word) : Act (List Char) :=
  return textOf (← expand run false false word)

/-- The text that a variable is given. -/
def expandAssigned (run : Runner) (word : Word) : Act (List Char) :=
  return textOf (← expand run false true word)

/-- A word as a pattern. -/
def expandPattern (run : Runner) (word : Word) : Act (List GlobPart) :=
  return patternOf (← expand run false false word)

/-- The fields that a word becomes. -/
def expandFields (run : Runner) (word : Word) : Act (List (List Char)) := do
  let letters ← expand run true false word
  return cutFields (← separators) letters

/-- The fields that several words become. -/
def expandAll (run : Runner) : List Word → Act (List (List Char))
  | [] => return []
  | word :: rest => do
    let fields ← expandFields run word
    return fields ++ (← expandAll run rest)

end Shell
end Toolbox
end CompilerRelay
