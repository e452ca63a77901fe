import CompilerRelay.Toolbox.Shell.Syntax

/-!
Reading commands of the shell.

A script is read line by line: the commands of a line are carried out before
the next line is looked at, so a mistake is met only when its line comes.  A
word that opens or closes a compound command means that only where a command
can begin.  The text of a document begins behind the line that asks for it.
-/

namespace CompilerRelay
namespace Toolbox
namespace Shell

/-- What is left of a script, and the line it begins on. -/
structure Source where
  rest : List Char
  line : Nat := 1
  /-- How many lines behind this one were taken by documents. -/
  skipped : Nat := 0

/-- Why a script cannot be read further. -/
inductive Fault where
  /-- Something stands where something else has to stand. -/
  | unexpected (text : List Char) (expected : Option String)
  | unterminatedQuote
  | missing (mark : String)
  | badVariable
  | badStream
  | badFunction
  deriving Repr

namespace Fault

def message (fault : Fault) : List Char :=
  "Syntax error: ".toList ++ match fault with
    | unexpected text none => text ++ " unexpected".toList
    | unexpected text (some mark) =>
      text ++ " unexpected (expecting \"".toList ++ mark.toList ++ ['"', ')']
    | unterminatedQuote => "Unterminated quoted string".toList
    | missing mark => "Missing '".toList ++ mark.toList ++ ['\'']
    | badVariable => "Bad for loop variable".toList
    | badStream => "Bad fd number".toList
    | badFunction => "Bad function name".toList

end Fault

/-- A fault and the line it was met on. -/
structure Mistake where
  line : Nat
  fault : Fault

/-- Reading something from the front of a script. -/
abbrev Reader (α : Type) := StateT Source (Except Mistake) α

namespace Reader

def rest : Reader (List Char) :=
  return (← get).rest

/-- Refuse to read further. -/
def refuse (fault : Fault) : Reader α := do
  let source ← get
  let ends := match fault with
    | .unexpected .. => 0
    | _ => source.rest.count '\n'
  throw ⟨source.line + ends, fault⟩

/-- Go on behind so many characters. -/
def drop (count : Nat) : Reader Unit :=
  modify fun source => { source with rest := source.rest.drop count }

/-- Blanks and comments, with how many line ends are hidden in them; what
follows. -/
def behindBlanks : List Char → Nat × List Char
  | '\\' :: '\n' :: rest =>
    let found := behindBlanks rest
    (found.1 + 1, found.2)
  | ' ' :: rest => behindBlanks rest
  | '\t' :: rest => behindBlanks rest
  | '#' :: rest => (0, rest.dropWhile (· != '\n'))
  | rest => (0, rest)

def skipBlanks : Reader Unit :=
  modify fun source =>
    let found := behindBlanks source.rest
    { source with rest := found.2, line := source.line + found.1 }

/-- Go on behind a line end, and behind the documents that follow it. -/
def nextLine : Reader Unit :=
  modify fun source =>
    { rest := source.rest.drop 1, line := source.line + 1 + source.skipped, skipped := 0 }

/-- Leave out blanks, comments and line ends. -/
def skipLines : Nat → Reader Unit
  | 0 => return ()
  | bound + 1 => do
    skipBlanks
    if (← rest).head? = some '\n' then do
      nextLine
      skipLines bound

/-- Leave out blanks, comments and line ends, however many. -/
def skipToCommand : Reader Unit := do
  skipLines ((← rest).length + 1)

/-- Whether a character ends a word. -/
def endsWord (c : Char) : Bool :=
  " \t\n;&|()<>".toList.contains c

/-- Whether a character in a word means more than itself. -/
def isSpecial (c : Char) : Bool :=
  endsWord c || c == '\'' || c == '"' || c == '\\' || c == '$' || c.toNat == 0x60

/-- The mark for the output of a command. -/
def backquote : Char :=
  Char.ofNat 0x60

/-- The word at the front, if it is plain. -/
def plainWord (text : List Char) : List Char :=
  let word := text.takeWhile (!isSpecial ·)
  match text.drop word.length with
  | [] => word
  | c :: _ => if endsWord c then word else []

/-- Whether a script goes on with a mark. -/
def startsWith (mark : String) : Reader Bool :=
  return mark.toList.isPrefixOf (← rest)

/-- What stands at the front, as it is named in a complaint. -/
def named (text : List Char) : List Char :=
  let quoted (mark : List Char) : List Char := '"' :: mark ++ ['"']
  match text with
  | [] => "end of file".toList
  | '\n' :: _ => "newline".toList
  | '<' :: _ => "redirection".toList
  | '>' :: _ => "redirection".toList
  | c :: _ =>
    let marks : List (List Char) := ["&&".toList, "||".toList, ";;".toList]
    match marks.find? (·.isPrefixOf text) with
    | some mark => quoted mark
    | none =>
      let word := plainWord text
      if endsWord c then quoted [c]
      else if reservedWords.contains (String.ofList word) then quoted word
      else ['w', 'o', 'r', 'd']

/-- Complain about what stands at the front. -/
def unexpected (expected : Option String := none) : Reader α := do
  refuse (.unexpected (named (← rest)) expected)

/-- Go on behind a mark that has to be there. -/
def expect (mark : String) : Reader Unit := do
  if ← startsWith mark then drop mark.length else unexpected mark

/-- Whether the word at the front is a certain plain one. -/
def atWord (word : String) : Reader Bool :=
  return plainWord (← rest) == word.toList

/-- Go on behind a word that has to be there. -/
def expectWord (word : String) : Reader Unit := do
  skipBlanks
  if ← atWord word then drop word.length else unexpected word

/-- The words that close a part of a compound command. -/
def closingWords : List String :=
  ["then", "else", "elif", "fi", "do", "done", "esac", "\x7d"]

/-- Whether a list of commands ends here. -/
def atListEnd : Reader Bool := do
  let text ← rest
  return text.isEmpty || text.head? == some ')' || ";;".toList.isPrefixOf text
    || closingWords.contains (String.ofList (plainWord text))

/-! ## Documents -/

/-- The rest of a line with its end, where line ends between quotes do not
count, and what follows. -/
def cutLogicalLine : Option Char → List Char → List Char × List Char
  | _, [] => ([], [])
  | none, '\n' :: rest => (['\n'], rest)
  | none, '\\' :: c :: rest => add ['\\', c] (cutLogicalLine none rest)
  | some '"', '\\' :: c :: rest => add ['\\', c] (cutLogicalLine (some '"') rest)
  | quote, c :: rest =>
    let next := match quote with
      | none => if c = '\'' ∨ c = '"' then some c else none
      | some mark => if c = mark then none else quote
    add [c] (cutLogicalLine next rest)
where
  add (chars : List Char) (cut : List Char × List Char) : List Char × List Char :=
    (chars ++ cut.1, cut.2)

/-- The lines of a document up to the one that ends it, how many lines were
read, and what follows. -/
def cutDocument (delimiter : List Char) (stripsTabs : Bool) :
    Nat → List Char → List Char × Nat × List Char
  | 0, rest => ([], 0, rest)
  | _, [] => ([], 0, [])
  | bound + 1, text =>
    let line := text.takeWhile (· != '\n')
    let rest := text.drop line.length
    let shown := if stripsTabs then line.dropWhile (· == '\t') else line
    if shown = delimiter then ([], 1, rest.drop 1)
    else
      let others := cutDocument delimiter stripsTabs bound (rest.drop 1)
      (shown ++ rest.take 1 ++ others.1, others.2.1 + 1, others.2.2)

/-- Take the text of a document out of the script. -/
def takeDocument (delimiter : List Char) (stripsTabs : Bool) : Reader (List Char) := do
  let source ← get
  let (line, behind) := cutLogicalLine none source.rest
  let (document, count, rest) := cutDocument delimiter stripsTabs (behind.length + 1) behind
  set { source with rest := line ++ rest, skipped := source.skipped + count }
  return document

/-! ## Words -/

/-- Where pieces stand, which says how they end and what is quoted. -/
inductive Surroundings where
  | doubleQuotes
  | document
  | braces
  | quotedBraces
  | sum
  deriving DecidableEq

namespace Surroundings

/-- Whether what stands there is quoted. -/
def quotes (place : Surroundings) : Bool :=
  place != braces

/-- The characters that a backslash takes the meaning of. -/
def escapable : Surroundings → List Char
  | doubleQuotes => ['$', '"', '\\', backquote]
  | document => ['$', '\\', backquote]
  | quotedBraces => ['$', '"', '\\', '\x7d', backquote]
  | sum => ['$', '\\', backquote]
  | braces => []

/-- Whether a character there is no plain one. -/
def stops (place : Surroundings) (c : Char) : Bool :=
  c == '\\' || c == '$' || c == backquote || c == '\n'
    || match place with
      | doubleQuotes => c == '"'
      | document => false
      | braces => c == '\x7d' || c == '"' || c == '\''
      | quotedBraces => c == '\x7d' || c == '"'
      | sum => c == '(' || c == ')' || c == '"'

end Surroundings

/-- The name of a parameter at the front of a text: a name, a number or a mark. -/
def parameterName (text : List Char) : List Char :=
  match text with
  | [] => []
  | c :: _ =>
    if isNameStart c then text.takeWhile isNameChar
    else if c.isDigit then text.takeWhile Char.isDigit
    else if "?#@*-$!".toList.contains c then [c] else []

/-- The operation behind the name of a parameter, with how many characters it
takes. -/
def operationAt (text : List Char) : Operation × Nat :=
  match text with
  | ':' :: '-' :: _ => (.orElse true, 2)
  | ':' :: '=' :: _ => (.orAssign true, 2)
  | ':' :: '?' :: _ => (.orFail true, 2)
  | ':' :: '+' :: _ => (.instead true, 2)
  | ':' :: '\x7d' :: _ => (.value, 2)
  | '-' :: _ => (.orElse false, 1)
  | '=' :: _ => (.orAssign false, 1)
  | '?' :: _ => (.orFail false, 1)
  | '+' :: _ => (.instead false, 1)
  | '#' :: '#' :: _ => (.strip true true, 2)
  | '#' :: _ => (.strip true false, 1)
  | '%' :: '%' :: _ => (.strip false true, 2)
  | '%' :: _ => (.strip false false, 1)
  | _ => (.unknown, 0)

/-- The script between backquotes, and what follows the closing one. -/
def cutBackquoted (quoted : Bool) : List Char → Option (List Char × List Char)
  | [] => none
  | '\\' :: c :: rest =>
    (cutBackquoted quoted rest).map fun cut =>
      (if c = backquote ∨ c = '\\' ∨ c = '$' ∨ (quoted ∧ c = '"') then c :: cut.1
        else '\\' :: c :: cut.1, cut.2)
  | c :: rest =>
    if c = backquote then some ([], rest)
    else (cutBackquoted quoted rest).map fun cut => (c :: cut.1, cut.2)

/-- Text between quotes, with a mark that there are quotes unless they hold nothing
but all arguments. -/
def quotedPieces (pieces : Word) : Word :=
  match pieces with
  | [.parameter ['@'] .value _ _] => pieces
  | _ => .text [] true :: pieces

/-- An assignment: a name, an equals sign and the rest of the word. -/
def assignment? (word : Word) : Option (List Char × Word) :=
  match word with
  | .text chars false :: pieces =>
    let name := chars.takeWhile isNameChar
    match chars.drop name.length with
    | '=' :: value =>
      if isName name then
        some (name, if value.isEmpty then pieces else .text value false :: pieces)
      else none
    | _ => none
  | _ => none

/-- A redirection mark at the front: the stream, what is done with it, how long
the mark is, and whether tabs are left out of a document. -/
def redirectAt? (text : List Char) : Option (Nat × Direction × Nat × Bool) :=
  let (given, count, marks) : Option Nat × Nat × List Char := match text with
    | digit :: c :: rest =>
      if digit.isDigit ∧ (c = '<' ∨ c = '>') then
        (some (digit.toNat - '0'.toNat), 1, c :: rest)
      else (none, 0, text)
    | _ => (none, 0, text)
  let found (usual : Nat) (direction : Direction) (length : Nat) (tabs : Bool) :
      Option (Nat × Direction × Nat × Bool) :=
    some (given.getD usual, direction, count + length, tabs)
  match marks with
  | '<' :: '<' :: '-' :: _ => found 0 .document 3 true
  | '<' :: '<' :: _ => found 0 .document 2 false
  | '<' :: '&' :: _ => found 0 .same 2 false
  | '<' :: '>' :: _ => found 0 .readAndWrite 2 false
  | '<' :: _ => found 0 .read 1 false
  | '>' :: '>' :: _ => found 1 .append 2 false
  | '>' :: '&' :: _ => found 1 .same 2 false
  | '>' :: '|' :: _ => found 1 .write 2 false
  | '>' :: _ => found 1 .write 1 false
  | _ => none

mutual

def word : Nat → Reader Word
  | 0 => unexpected
  | bound + 1 => do
    match ← rest with
    | [] => return []
    | c :: more =>
      if endsWord c then return []
      else if c = '\'' then do
        let inside := more.takeWhile (· != '\'')
        if inside.length = more.length then refuse .unterminatedQuote
        modify fun source => { source with line := source.line + inside.count '\n' }
        drop (inside.length + 2)
        return .text inside true :: (← word bound)
      else if c = '"' then do
        drop 1
        let inside ← pieces .doubleQuotes 0 bound
        return quotedPieces inside ++ (← word bound)
      else if c = '\\' then
        match more with
        | [] => do
          drop 1
          return [.text ['\\'] true]
        | '\n' :: _ => do
          drop 1
          nextLine
          word bound
        | d :: _ => do
          drop 2
          return .text [d] true :: (← word bound)
      else if c = '$' then do
        drop 1
        let piece ← dollar false bound
        return piece :: (← word bound)
      else if c = backquote then do
        drop 1
        let piece ← backquoted false bound
        return piece :: (← word bound)
      else do
        let plain := (c :: more).takeWhile (!isSpecial ·)
        drop plain.length
        return .text plain false :: (← word bound)

/-- Pieces up to the end of their surroundings. -/
def pieces (place : Surroundings) : Nat → Nat → Reader Word
  | _, 0 => unexpected
  | depth, bound + 1 => do
    let quoted := place.quotes
    match ← rest with
    | [] =>
      match place with
      | .document => return []
      | .braces => refuse (.missing "\x7d")
      | .sum => refuse (.missing "))")
      | _ => refuse .unterminatedQuote
    | '\\' :: '\n' :: _ => do
      drop 1
      nextLine
      pieces place depth bound
    | '\\' :: c :: _ => do
      drop 2
      let kept := if place = .braces ∨ place.escapable.contains c then [c] else ['\\', c]
      return .text kept true :: (← pieces place depth bound)
    | '\n' :: _ => do
      nextLine
      return .text ['\n'] quoted :: (← pieces place depth bound)
    | '$' :: _ => do
      drop 1
      let piece ← dollar quoted bound
      return piece :: (← pieces place depth bound)
    | '"' :: _ => do
      drop 1
      match place with
      | .doubleQuotes => return []
      | .document => return .text ['"'] true :: (← pieces place depth bound)
      | .sum => return .text ['"'] true :: (← pieces place depth bound)
      | _ => do
        let inside ← pieces .doubleQuotes 0 bound
        return quotedPieces inside ++ (← pieces place depth bound)
    | c :: more =>
      if c = backquote then do
        drop 1
        let piece ← backquoted quoted bound
        return piece :: (← pieces place depth bound)
      else if c = '\x7d' ∧ (place = .braces ∨ place = .quotedBraces) then do
        drop 1
        return []
      else if c = '\'' ∧ place = .braces then do
        let inside := more.takeWhile (· != '\'')
        if inside.length = more.length then refuse .unterminatedQuote
        drop (inside.length + 2)
        return .text inside true :: (← pieces place depth bound)
      else if c = '(' ∧ place = .sum then do
        drop 1
        return .text ['('] true :: (← pieces place (depth + 1) bound)
      else if c = ')' ∧ place = .sum then
        if depth = 0 ∧ more.head? = some ')' then do
          drop 2
          return []
        else do
          drop 1
          return .text [')'] true :: (← pieces place (depth - 1) bound)
      else do
        let plain := c :: more.takeWhile (!place.stops ·)
        drop plain.length
        return .text plain quoted :: (← pieces place depth bound)

/-- What follows a dollar sign. -/
def dollar (quoted : Bool) : Nat → Reader Piece
  | 0 => unexpected
  | bound + 1 => do
    let text ← rest
    match text with
    | '(' :: '(' :: _ => do
      drop 2
      return .sum (← pieces .sum 0 bound) quoted
    | '(' :: _ => do
      drop 1
      let command ← list bound
      expect ")"
      return .output command quoted
    | '\x7b' :: _ => do
      drop 1
      braced quoted bound
    | c :: _ => do
      let name := if c.isDigit then [c] else parameterName text
      drop name.length
      return if name.isEmpty then .text ['$'] quoted else .parameter name .value [] quoted
    | [] => return .text ['$'] quoted

/-- A parameter between braces, behind the opening one. -/
def braced (quoted : Bool) : Nat → Reader Piece
  | 0 => unexpected
  | bound + 1 => do
    let text ← rest
    match text with
    | '#' :: mark :: behind =>
      let name := parameterName (mark :: behind)
      if isNameChar mark ∨ (mark ≠ '\x7d' ∧ behind.head? = some '\x7d') then do
        drop (1 + max 1 name.length)
        let done := !name.isEmpty && (← rest).head? == some '\x7d'
        let operand ← pieces (if quoted then .quotedBraces else .braces) 0 bound
        return .parameter name (if done then .length else .unknown) operand quoted
      else operated quoted ['#'] bound
    | _ => operated quoted (parameterName text) bound

/-- A parameter between braces that begins with its name. -/
def operated (quoted : Bool) (name : List Char) : Nat → Reader Piece
  | 0 => unexpected
  | bound + 1 => do
    drop name.length
    let behind ← rest
    if behind.head? = some '\x7d' ∧ !name.isEmpty then do
      drop 1
      return .parameter name .value [] quoted
    else do
      let (operation, size) := operationAt behind
      drop size
      let plain := match operation with
        | .strip .. => true
        | _ => !quoted
      let operand ← pieces (if plain then .braces else .quotedBraces) 0 bound
      return .parameter name (if name.isEmpty then .unknown else operation) operand quoted

/-- The output of a script between backquotes, behind the opening one. -/
def backquoted (quoted : Bool) : Nat → Reader Piece
  | 0 => unexpected
  | bound + 1 => do
    let source ← get
    match cutBackquoted quoted source.rest with
    | none => refuse .unterminatedQuote
    | some (script, after) => do
      set ({ rest := script } : Source)
      let command ← list bound
      unless (← rest).isEmpty do unexpected
      set { source with rest := after }
      return .output command quoted

/-- Commands up to something that closes them. -/
def list : Nat → Reader Command
  | 0 => unexpected
  | bound + 1 => do
    skipToCommand
    if ← atListEnd then return .nothing
    else do
      let first ← chain bound
      let (first, more) ← separator first
      if more then return .sequence first (← list bound) else return first

/-- Commands up to something that closes them, at least one. -/
def commands : Nat → Reader Command
  | 0 => unexpected
  | bound + 1 => do
    match ← list bound with
    | .nothing => unexpected
    | command => return command

/-- What parts a command from the next one; says whether there may be one. -/
def separator (first : Command) : Reader (Command × Bool) := do
  skipBlanks
  match ← rest with
  | ';' :: ';' :: _ => return (first, false)
  | ';' :: _ => do
    drop 1
    return (first, true)
  | '&' :: _ => do
    drop 1
    return (.background first, true)
  | '\n' :: _ => return (first, true)
  | _ => return (first, false)

/-- Commands joined by conditions. -/
def chain : Nat → Reader Command
  | 0 => unexpected
  | bound + 1 => do
    let first ← pipeline bound
    furtherChain first bound

/-- The commands behind the first one of a chain. -/
def furtherChain (first : Command) : Nat → Reader Command
  | 0 => unexpected
  | bound + 1 => do
    skipBlanks
    match ← rest with
    | '&' :: '&' :: _ => do
      drop 2
      skipToCommand
      let second ← pipeline bound
      furtherChain (.whenOk first second) bound
    | '|' :: '|' :: _ => do
      drop 2
      skipToCommand
      let second ← pipeline bound
      furtherChain (.whenFailed first second) bound
    | _ => return first

/-- Commands joined by pipes, perhaps with their outcome turned around. -/
def pipeline : Nat → Reader Command
  | 0 => unexpected
  | bound + 1 => do
    skipBlanks
    if ← atWord "!" then do
      drop 1
      skipBlanks
      return .negated (← piped bound)
    else piped bound

/-- Commands joined by pipes. -/
def piped : Nat → Reader Command
  | 0 => unexpected
  | bound + 1 => do
    let first ← command bound
    skipBlanks
    match ← rest with
    | '|' :: '|' :: _ => return first
    | '|' :: _ => do
      drop 1
      skipToCommand
      return .pipe first (← piped bound)
    | _ => return first

def command : Nat → Reader Command
  | 0 => unexpected
  | bound + 1 => do
    skipBlanks
    let text ← rest
    let name := String.ofList (plainWord text)
    let line := (← get).line
    let compound (body : Command) : Reader Command := do
      let redirects ← redirects bound
      return if redirects.isEmpty then body else .redirected line body redirects
    if text.head? = some '(' then do
      drop 1
      let body ← commands bound
      expect ")"
      compound (.subshell body)
    else if name = "\x7b" then do
      drop 1
      let body ← commands bound
      expectWord "\x7d"
      compound body
    else if name = "if" then do
      drop 2
      compound (← branch bound)
    else if name = "while" ∨ name = "until" then do
      drop 5
      let condition ← commands bound
      let body ← loopBody bound
      compound (.loop condition body (name = "until"))
    else if name = "for" then do
      drop 3
      compound (← each bound)
    else if name = "case" then do
      drop 4
      compound (← selection bound)
    else if closingWords.contains name ∨ name = "!" then unexpected
    else simple bound

/-- The body of a loop. -/
def loopBody : Nat → Reader Command
  | 0 => unexpected
  | bound + 1 => do
    skipToCommand
    expectWord "do"
    let body ← commands bound
    expectWord "done"
    return body

/-- A condition and what depends on it, behind its first word. -/
def branch : Nat → Reader Command
  | 0 => unexpected
  | bound + 1 => do
    let condition ← commands bound
    expectWord "then"
    let consequence ← commands bound
    if ← atWord "elif" then do
      drop 4
      return .branch condition consequence (← branch bound)
    else if ← atWord "else" then do
      drop 4
      let alternative ← commands bound
      expectWord "fi"
      return .branch condition consequence alternative
    else do
      expectWord "fi"
      return .branch condition consequence .nothing

/-- A loop over words, behind its first word. -/
def each : Nat → Reader Command
  | 0 => unexpected
  | bound + 1 => do
    skipBlanks
    let line := (← get).line
    let name := plainWord (← rest)
    unless isName name do refuse .badVariable
    drop name.length
    skipToCommand
    if ← atWord "in" then do
      drop 2
      let words ← words bound
      if (← rest).head? = some ';' then drop 1
      return .each line name (some words) (← loopBody bound)
    else do
      if (← rest).head? = some ';' then drop 1
      return .each line name none (← loopBody bound)

def words : Nat → Reader (List Word)
  | 0 => unexpected
  | bound + 1 => do
    skipBlanks
    match ← rest with
    | [] => return []
    | c :: _ =>
      if endsWord c then return []
      else do
        let first ← word bound
        return first :: (← words bound)

/-- A selection, behind its first word. -/
def selection : Nat → Reader Command
  | 0 => unexpected
  | bound + 1 => do
    skipBlanks
    let line := (← get).line
    let subject ← word bound
    skipToCommand
    expectWord "in"
    return .select line subject (← arms bound)

/-- The arms of a selection, up to its last word. -/
def arms : Nat → Reader (List (List Word × Command))
  | 0 => unexpected
  | bound + 1 => do
    skipToCommand
    if ← atWord "esac" then do
      drop 4
      return []
    else do
      if (← rest).head? = some '(' then drop 1
      let patterns ← patterns bound
      let body ← list bound
      if ← startsWith ";;" then do
        drop 2
        return (patterns, body) :: (← arms bound)
      else do
        unless ← atWord "esac" do unexpected ";;"
        drop 4
        return [(patterns, body)]

/-- The patterns of an arm, up to its parenthesis. -/
def patterns : Nat → Reader (List Word)
  | 0 => unexpected
  | bound + 1 => do
    skipBlanks
    let first ← word bound
    if first.isEmpty then unexpected
    skipBlanks
    match ← rest with
    | ')' :: _ => do
      drop 1
      return [first]
    | '|' :: _ => do
      drop 1
      return first :: (← patterns bound)
    | _ => unexpected

/-- A redirection, if one is there. -/
def redirect? : Nat → Reader (Option Redirect)
  | 0 => unexpected
  | bound + 1 => do
    skipBlanks
    match redirectAt? (← rest) with
    | none => return none
    | some (stream, direction, size, stripsTabs) => do
      drop size
      skipBlanks
      let target ← word bound
      if target.isEmpty then unexpected
      if direction = .document then do
        let document ← takeDocument (plainText target) stripsTabs
        if target.any Piece.isQuoted then
          return some (.mk stream direction [.text document true])
        else do
          let source ← get
          set { source with rest := document }
          let content ← pieces .document 0 bound
          set source
          return some (.mk stream direction content)
      else return some (.mk stream direction target)

/-- The redirections behind a compound command. -/
def redirects : Nat → Reader (List Redirect)
  | 0 => unexpected
  | bound + 1 => do
    match ← redirect? bound with
    | none => return []
    | some first => return first :: (← redirects bound)

/-- A simple command or the definition of a function. -/
def simple : Nat → Reader Command
  | 0 => unexpected
  | bound + 1 => do
    let line := (← get).line
    let name := plainWord (← rest)
    let behind := (behindBlanks ((← rest).drop name.length)).2
    if isName name ∧ behind.head? = some '(' then do
      drop name.length
      skipBlanks
      drop 1
      skipBlanks
      expect ")"
      skipToCommand
      return .function name (← command bound)
    else do
      let read ← parts [] [] [] bound
      match read with
      | ([], [], []) => unexpected
      | (assignments, words, redirects) => return .simple line assignments words redirects

/-- The parts of a simple command, behind those that were read. -/
def parts (assignments : List (List Char × Word)) (words : List Word)
    (redirects : List Redirect) :
    Nat → Reader (List (List Char × Word) × List Word × List Redirect)
  | 0 => unexpected
  | bound + 1 => do
    match ← redirect? bound with
    | some redirect => parts assignments words (redirects ++ [redirect]) bound
    | none =>
      match ← rest with
      | [] => return (assignments, words, redirects)
      | '(' :: _ => unexpected
      | c :: _ =>
        if endsWord c then return (assignments, words, redirects)
        else do
          let next ← word bound
          match words, assignment? next with
          | [], some assigned => parts (assignments ++ [assigned]) [] redirects bound
          | _, _ => parts assignments (words ++ [next]) redirects bound

end

/-- The commands of a line, behind those that were read. -/
def furtherCommands (bound : Nat) (before : Command) : Nat → Reader Command
  | 0 => unexpected
  | count + 1 => do
    let first ← chain bound
    let (first, more) ← separator first
    let commands := Command.sequence before first
    skipBlanks
    match ← rest with
    | [] => return commands
    | '\n' :: _ => do
      nextLine
      return commands
    | _ => if more then furtherCommands bound commands count else unexpected

/-- The commands of the next line that has any. -/
def commandLine : Reader (Option Command) := do
  skipToCommand
  let text ← rest
  if text.isEmpty then return none
  else return some (← furtherCommands (16 * text.length + 64) .nothing (text.length + 1))

end Reader
end Shell
end Toolbox
end CompilerRelay
