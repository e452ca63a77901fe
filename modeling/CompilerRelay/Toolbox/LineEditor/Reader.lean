import CompilerRelay.Toolbox.LineEditor
import CompilerRelay.Toolbox.Regex.Reader

/-!
Reading scripts of the line editor.

Instructions stand on lines of their own or are parted by semicolons.  Texts
that are put in and labels reach to the end of their line.  A script with a
mistake anywhere is refused as a whole.
-/

namespace CompilerRelay
namespace Toolbox
namespace LineEditor

/-- Reading something from the front of a script. -/
abbrev Reader (α : Type) := StateT (List Char) Option α

namespace Reader

def skip (kind : Char → Bool) : Reader Unit :=
  modify (·.dropWhile kind)

def isSpace (c : Char) : Bool :=
  c == ' ' || c == '\t'

def number? : Reader (Option Nat) := do
  let text ← get
  let read := readDigits 10 text.length 0 text
  set read.2
  return if read.2.length < text.length then some read.1 else none

def next : Reader Char := do
  match ← get with
  | [] => none
  | c :: rest => do
    set rest
    return c

def peek? : Reader (Option Char) :=
  return (← get).head?

/-- What stands between brackets, with the closing one, and what follows. -/
def cutBrackets : Bool → List Char → Option (List Char × List Char)
  | _, [] => none
  | _, '\n' :: _ => none
  | first, ']' :: rest =>
    if first then (cutBrackets false rest).map fun cut => (']' :: cut.1, cut.2)
    else some ([']'], rest)
  | _, '[' :: ':' :: rest => do
    let cut ← cutName rest
    return ('[' :: ':' :: cut.1, cut.2)
  | first, c :: rest =>
    (cutBrackets (first && c == '^') rest).map fun cut => (c :: cut.1, cut.2)
where
  cutName : List Char → Option (List Char × List Char)
    | [] => none
    | ':' :: ']' :: rest => (cutBrackets false rest).map fun cut => (':' :: ']' :: cut.1, cut.2)
    | c :: rest => (cutName rest).map fun cut => (c :: cut.1, cut.2)

/-- The text up to a delimiter.  An escaped delimiter is kept bare; in an
expression a delimiter between brackets does not count. -/
def delimited (expression : Bool) (delimiter : Char) : Reader (List Char) := do
  let text ← get
  let (found, rest) ← go (text.length + 1) text
  set rest
  return found
where
  go : Nat → List Char → Option (List Char × List Char)
    | 0, _ => none
    | _, [] => none
    | _, '\n' :: _ => none
    | bound + 1, '\\' :: c :: rest => do
      let kept := if c = delimiter ∧ (expression ∨ c ≠ '&') then [c]
        else if c = '\n' ∧ expression then [c]
        else if c = 'n' ∧ expression then ['\\', 'n'] else ['\\', c]
      let others ← go bound rest
      return (kept ++ others.1, others.2)
    | bound + 1, c :: rest =>
      if c = delimiter then some ([], rest)
      else if c = '[' ∧ expression then do
        let (inside, after) ← cutBrackets true rest
        let others ← go bound after
        return ('[' :: inside ++ others.1, others.2)
      else do
        let others ← go bound rest
        return (c :: others.1, others.2)

/-- Flags of an expression: whether cases matter, and where lines end. -/
def expressionFlags (text : List Char) : Bool × Bool :=
  (text.contains 'I' || text.contains 'i', text.contains 'M' || text.contains 'm')

/-- An expression with its flags; an empty one is the one used last. -/
def expression (extended : Bool) (flags text : List Char) : Reader (Option Pattern) := do
  let (ignoreCase, multiline) := expressionFlags flags
  if text.isEmpty then return none
  else return some (← Regex.read? extended ignoreCase multiline text)

/-- An address, if one is there. -/
def address? (extended : Bool) : Reader (Option Address) := do
  let fits (delimiter : Char) : Reader (Option Address) := do
    let text ← delimited true delimiter
    let flags := (← get).takeWhile fun c => c == 'I' || c == 'M'
    modify (·.drop flags.length)
    return some (.fits (← expression extended flags text))
  match ← get with
  | '$' :: rest => do
    set rest
    return some .last
  | '/' :: rest => do
    set rest
    fits '/'
  | '\\' :: delimiter :: rest => do
    set rest
    fits delimiter
  | _ =>
    match ← number? with
    | none => return none
    | some first =>
      match ← get with
      | '~' :: rest => do
        set rest
        return some (.step first ((← number?).getD 0))
      | _ => return some (if first = 0 then .zero else .line first)

/-- Where a range ends. -/
def limit (extended : Bool) : Reader Limit := do
  match ← get with
  | '+' :: rest => do
    set rest
    return .further (← (← number?))
  | '~' :: rest => do
    set rest
    return .multiple (← (← number?))
  | _ =>
    match ← address? extended with
    | some .zero => return .upTo (.line 0)
    | some address => return .upTo address
    | none => none

/-- The lines an instruction is for.  The place before the first line can only
be the beginning of a range that ends with a match. -/
def selection (extended : Bool) : Reader Selection := do
  let first ← address? extended
  skip isSpace
  let limit? ← match first, ← get with
    | some _, ',' :: rest => do
      set rest
      skip isSpace
      some <$> limit extended
    | _, _ => pure none
  match first, limit? with
  | some .zero, some (.upTo (.fits _)) => pure ()
  | some .zero, _ => none
  | _, _ => pure ()
  skip isSpace
  let marks := (← get).takeWhile (· == '!')
  if 1 < marks.length then none
  modify (·.drop marks.length)
  skip isSpace
  return { first, limit := limit?, negated := !marks.isEmpty }

/-- The end of an instruction that has nothing behind it. -/
def finish : Reader Unit := do
  skip isSpace
  match ← peek? with
  | none => return ()
  | some '\n' => return ()
  | some ';' => return ()
  | some '\x7d' => return ()
  | some '#' => return ()
  | some _ => none

/-- A label, up to a blank or a semicolon. -/
def name (closes : Bool) : Reader (List Char) := do
  skip isSpace
  let text := (← get).takeWhile fun c =>
    !isSpace c && c != '\n' && c != ';' && !(closes && c == '\x7d')
  modify (·.drop text.length)
  return text

/-- A text up to the end of the line; a line end behind a backslash is part of
it. -/
def line : Reader (List Char) := do
  let text ← get
  let (found, rest) := go (text.length + 1) text
  set rest
  return found ++ ['\n']
where
  go : Nat → List Char → List Char × List Char
    | 0, rest => ([], rest)
    | _, [] => ([], [])
    | _, '\n' :: rest => ([], rest)
    | _, ['\\'] => ([], [])
    | bound + 1, '\\' :: rest =>
      let (c, after) := ((Regex.namedChar? rest).getD (rest.head?.getD '\\', rest.drop 1))
      let others := go bound after
      (c :: others.1, others.2)
    | bound + 1, c :: rest =>
      let others := go bound rest
      (c :: others.1, others.2)

/-- The text of an instruction that puts one in.  It may begin on the next line;
its blanks at the beginning count only behind a backslash. -/
def text : Reader (List Char) := do
  skip isSpace
  match ← get with
  | [] => none
  | ['\\'] => do
    set ([] : List Char)
    return []
  | '\\' :: rest => do
    match rest.dropWhile isSpace with
    | '\n' :: more => do
      set more
      if more.isEmpty then return [] else line
    | _ => do
      set rest
      match rest with
      | [] => return []
      | c :: more => do
        set more
        return c :: (← line)
  | _ => line

/-- The parts of what replaces a match. -/
def template (text : List Char) : List TemplatePart :=
  go (text.length + 1) text
where
  go : Nat → List Char → List TemplatePart
    | 0, _ => []
    | _, [] => []
    | bound + 1, '&' :: rest => .group 0 :: go bound rest
    | bound + 1, '\\' :: 'U' :: rest => .change .upper :: go bound rest
    | bound + 1, '\\' :: 'L' :: rest => .change .lower :: go bound rest
    | bound + 1, '\\' :: 'u' :: rest => .change .nextUpper :: go bound rest
    | bound + 1, '\\' :: 'l' :: rest => .change .nextLower :: go bound rest
    | bound + 1, '\\' :: 'E' :: rest => .change .plain :: go bound rest
    | bound + 1, '\\' :: c :: rest =>
      if c.isDigit then .group (c.toNat - '0'.toNat) :: go bound rest
      else match Regex.namedChar? (c :: rest) with
        | some (named, after) => .text [named] :: go bound after
        | none => .text [c] :: go bound rest
    | bound + 1, c :: rest => .text [c] :: go bound rest

/-- The greatest group that a replacement uses. -/
def greatestGroup (parts : List TemplatePart) : Nat :=
  parts.foldl (fun greatest part => match part with
    | .group number => max greatest number
    | _ => greatest) 0

/-- The flags of a replacement, each with its letter, up to the end. -/
def substitutionFlags (s : Substitution) (flags : List Char) :
    Nat → Reader (Substitution × List Char)
  | 0 => none
  | bound + 1 => do
    let once (letter : Char) (changed : Substitution) : Reader (Substitution × List Char) := do
      modify (·.drop 1)
      if flags.contains letter then none
      substitutionFlags changed (letter :: flags) bound
    match ← peek? with
    | some 'g' => once 'g' { s with everywhere := true }
    | some 'p' => once 'p' { s with prints := s.prints + 1 }
    | some 'I' => once 'I' s
    | some 'i' => once 'I' s
    | some 'M' => once 'M' s
    | some 'm' => once 'M' s
    | some ' ' => do
      modify (·.drop 1)
      substitutionFlags s flags bound
    | some 'w' => do
      modify (·.drop 1)
      skip isSpace
      let file := (← get).takeWhile (· != '\n')
      modify (·.drop file.length)
      if file.isEmpty then none
      return (if file = "/dev/stdout".toList then { s with prints := s.prints + 1 } else s, flags)
    | some c =>
      if c.isDigit then do
        match ← number? with
        | some 0 => none
        | some nth =>
          if flags.contains '1' then none
          else substitutionFlags { s with nth } ('1' :: flags) bound
        | none => none
      else do
        finish
        return (s, flags)
    | none => return (s, flags)

/-- A replacement, behind its letter. -/
def substitution (extended : Bool) : Reader Verb := do
  let delimiter ← next
  if delimiter = '\n' ∨ delimiter = '\\' then none
  let regex ← delimited true delimiter
  let parts := template (← delimited false delimiter)
  let (s, flags) ← substitutionFlags ⟨none, parts, 1, false, 0⟩ [] ((← get).length + 1)
  let pattern ← expression extended flags regex
  if pattern.any fun pattern => pattern.groups < greatestGroup parts then none
  return .substitute { s with pattern }

/-- The characters of a text that is transliterated. -/
def letters (text : List Char) : List Char :=
  go (text.length + 1) text
where
  go : Nat → List Char → List Char
    | 0, _ => []
    | _, [] => []
    | bound + 1, '\\' :: '\\' :: rest => '\\' :: go bound rest
    | bound + 1, '\\' :: rest =>
      match Regex.namedChar? rest with
      | some (c, after) => c :: go bound after
      | none => '\\' :: go bound rest
    | bound + 1, c :: rest => c :: go bound rest

/-- A transliteration, behind its letter. -/
def transliteration : Reader Verb := do
  let delimiter ← next
  if delimiter = '\n' ∨ delimiter = '\\' then none
  let source := letters (← delimited false delimiter)
  let image := letters (← delimited false delimiter)
  if source.length ≠ image.length then none
  finish
  return .transliterate (source.zip image)

def fileName : Reader (List Char) := do
  skip isSpace
  let file := (← get).takeWhile (· != '\n')
  modify (·.drop file.length)
  if file.isEmpty then none else return file

/-- What an instruction does, from its letter on. -/
def verb (extended : Bool) : Reader Verb := do
  let plain (verb : Verb) : Reader Verb := do
    finish
    return verb
  match ← next with
  | '\x7b' => return .opening
  | '\x7d' => plain .closing
  | '=' => plain .number
  | 'a' => return .append (← text)
  | 'i' => return .insert (← text)
  | 'c' => return .change (← text)
  | ':' => do
    let label ← name false
    if label.isEmpty then none
    plain (.label label)
  | 'b' => plain (.branch (← name true))
  | 't' => plain (.branchIfReplaced (← name true))
  | 'T' => plain (.branchUnlessReplaced (← name true))
  | 'd' => plain .delete
  | 'D' => plain .deleteFirst
  | 'F' => plain (.insert ['-', '\n'])
  | 'g' => plain .takeHeld
  | 'G' => plain .joinHeld
  | 'h' => plain .hold
  | 'H' => plain .joinToHeld
  | 'l' => do
    skip isSpace
    plain (.list ((← number?).getD 70))
  | 'n' => plain .next
  | 'N' => plain .joinNext
  | 'p' => plain .print
  | 'P' => plain .printFirst
  | 'q' => do
    skip isSpace
    plain (.quit ((← number?).getD 0) false)
  | 'Q' => do
    skip isSpace
    plain (.quit ((← number?).getD 0) true)
  | 'r' => do
    let _ ← fileName
    return .nothing
  | 's' => substitution extended
  | 'v' => do
    let _ ← name true
    plain .nothing
  | 'w' => return if (← fileName) = "/dev/stdout".toList then .print else .nothing
  | 'x' => plain .exchange
  | 'y' => transliteration
  | 'z' => plain .clear
  | _ => none

/-- All instructions, with how many blocks are open. -/
def instructions (extended : Bool) : Nat → Nat → Reader (List Instruction)
  | 0, _ => none
  | bound + 1, depth => do
    skip fun c => isSpace c || c == ';' || c == '\n'
    match ← peek? with
    | none => if depth = 0 then return [] else none
    | some '#' => do
      skip (· != '\n')
      instructions extended bound depth
    | some _ => do
      let selection ← selection extended
      let verb ← verb extended
      let chosen := selection.first.isSome
      let depth ← match verb with
        | .opening => pure (depth + 1)
        | .closing => if depth = 0 ∨ chosen then none else pure (depth - 1)
        | .label _ => if chosen then none else pure depth
        | .quit .. => if selection.limit.isSome then none else pure depth
        | _ => pure depth
      return ⟨selection, verb⟩ :: (← instructions extended bound depth)

end Reader

/-- Whether every label that is used is there. -/
def labelsExist (script : List Instruction) : Bool :=
  script.all fun instruction =>
    let exists? (name : List Char) : Bool := name.isEmpty || target script name < script.length
    match instruction.verb with
    | .branch name => exists? name
    | .branchIfReplaced name => exists? name
    | .branchUnlessReplaced name => exists? name
    | _ => true

def readScript? (extended : Bool) (text : List Char) : Option (List Instruction) := do
  let (script, _) ← (Reader.instructions extended (text.length + 1) 0).run text
  if labelsExist script then some script else none

/-! ## The program -/

/-- What the arguments of the program ask for. -/
structure Options where
  quiet : Bool := false
  eager : Bool := false
  extended : Bool := false
  /-- The script is read with extended expressions. -/
  readsExtended : Bool := false
  /-- The pieces of the script, each a line at least. -/
  pieces : List (List Char) := []
  files : List (List Char) := []

namespace Options

/-- Add a piece of the script, which is read as was asked for up to here. -/
def addPiece (options : Options) (piece : List Char) : Options :=
  { options with pieces := options.pieces ++ [piece], readsExtended := options.extended }

/-- Read letters of options that stand together; one that takes a value takes
the rest of them or else the next argument. -/
def letters (options : Options) : List Char → List (List Char) →
    Option (Options × List (List Char))
  | [], arguments => some (options, arguments)
  | c :: rest, arguments =>
    match c with
    | 'n' => letters { options with quiet := true } rest arguments
    | 'u' => letters { options with eager := true } rest arguments
    | 'E' => letters { options with extended := true } rest arguments
    | 'r' => letters { options with extended := true } rest arguments
    | 's' => letters options rest arguments
    | 'e' =>
      match rest, arguments with
      | [], piece :: others => some (options.addPiece piece, others)
      | [], [] => none
      | piece, others => some (options.addPiece piece, others)
    | _ => none

/-- Read an option with a long name. -/
def long? (options : Options) (name : List Char) : Option Options :=
  let key := String.ofList (name.takeWhile (· != '='))
  match key with
  | "quiet" => some { options with quiet := true }
  | "silent" => some { options with quiet := true }
  | "unbuffered" => some { options with eager := true }
  | "line-buffered" => some { options with eager := true }
  | "regexp-extended" => some { options with extended := true }
  | "separate" => some options
  | "posix" => some options
  | "expression" => some (options.addPiece (name.drop (key.length + 1)))
  | _ => none

/-- Read arguments, at most that many. -/
def read (options : Options) : Nat → List (List Char) → Option Options
  | 0, _ => none
  | _, [] => some options
  | bound + 1, argument :: rest =>
    match argument with
    | ['-', '-'] => some { options with files := options.files ++ rest }
    | '-' :: '-' :: name => do (← options.long? name).read bound rest
    | ['-'] => read { options with files := options.files ++ [['-']] } bound rest
    | '-' :: letters => do
      let (options, rest) ← options.letters letters rest
      options.read bound rest
    | file => read { options with files := options.files ++ [file] } bound rest

/-- The options with a script; without one of its own, the first file is it. -/
def withScript? (options : Options) : Option Options :=
  if options.pieces.isEmpty then
    match options.files with
    | [] => none
    | script :: files => some { options.addPiece script with files }
  else some options

/-- The whole script. -/
def script (options : Options) : List Char :=
  ['\n'].intercalate options.pieces

end Options

/-- Why a file cannot be edited. -/
def account (path : List Char) (fault : PathFault) : List Char :=
  (if fault = .isDirectory then "read error on ".toList else "can't read ".toList) ++ path
    ++ ": ".toList ++ fault.message.toList

/-- Edit files, or what there is to read. -/
def editing (site : Site) (arguments : List (List Char)) : Filter :=
  let refused : Filter := refuse 1 "the script cannot be used".toList
  match (Options.read {} (arguments.length + 1) arguments).bind Options.withScript? with
  | none => refused
  | some options =>
    match readScript? options.readsExtended options.script with
    | none => refused
    | some script =>
      let quiet := options.quiet || "#n\n".toList.isPrefixOf (options.script ++ ['\n'])
      (Sources.ofFiles account site options.files).feed 2 (edit quiet options.eager script)

end LineEditor
end Toolbox
end CompilerRelay
