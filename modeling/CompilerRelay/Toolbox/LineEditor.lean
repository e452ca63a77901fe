import CompilerRelay.Toolbox.Filter
import CompilerRelay.Toolbox.Regex

/-!
The line editor.

Lines are read one after the other into a space, on which the instructions of a
script work in order; at the end of each round the space is written and the
next line is read.  A second space holds text aside.  An instruction may be
carried out on some lines only: on those of a number or with a match, or from
one such line on to another.
-/

namespace CompilerRelay
namespace Toolbox
namespace LineEditor

/-! ## Scripts -/

/-- What a line is chosen by. -/
inductive Address where
  /-- Before the first line. -/
  | zero
  | line (number : Nat)
  | last
  /-- Every so many lines from one on. -/
  | step (first every : Nat)
  /-- A match of an expression, or of the one used last. -/
  | fits (pattern : Option Pattern)
  deriving Repr

/-- Where a range of lines ends. -/
inductive Limit where
  | upTo (address : Address)
  | further (count : Nat)
  | multiple (number : Nat)
  deriving Repr

/-- The lines an instruction is carried out on. -/
structure Selection where
  first : Option Address := none
  limit : Option Limit := none
  negated : Bool := false
  deriving Repr

/-- How the case of letters is changed. -/
inductive CaseChange where
  | upper
  | lower
  /-- Of the next letter only. -/
  | nextUpper
  | nextLower
  | plain
  deriving Repr, DecidableEq

/-- A part of what replaces a match. -/
inductive TemplatePart where
  | text (chars : List Char)
  /-- What a group matched; the group zero is the whole match. -/
  | group (number : Nat)
  | change (change : CaseChange)
  deriving Repr

/-- A replacement. -/
structure Substitution where
  pattern : Option Pattern
  template : List TemplatePart
  /-- The first match that is replaced. -/
  nth : Nat
  /-- All further ones are replaced too. -/
  everywhere : Bool
  /-- The line is written if a match was replaced, once or twice. -/
  prints : Nat
  deriving Repr

/-- What an instruction does. -/
inductive Verb where
  | substitute (substitution : Substitution)
  | transliterate (pairs : List (Char × Char))
  | print
  | printFirst
  | delete
  | deleteFirst
  | next
  | joinNext
  | takeHeld
  | joinHeld
  | hold
  | joinToHeld
  | exchange
  | clear
  | quit (status : Nat) (silently : Bool)
  | number
  | list (width : Nat)
  | append (text : List Char)
  | insert (text : List Char)
  | change (text : List Char)
  | label (name : List Char)
  | branch (name : List Char)
  | branchIfReplaced (name : List Char)
  | branchUnlessReplaced (name : List Char)
  /-- The beginning and the end of a block. -/
  | opening
  | closing
  | nothing
  deriving Repr

/-- An instruction. -/
structure Instruction where
  selection : Selection
  verb : Verb
  deriving Repr

/-! ## The state of a run -/

/-- How far the range of an instruction is. -/
inductive Progress where
  /-- It has begun; a number is that of its last line. -/
  | begun (last : Option Nat)
  /-- It has ended and does not begin again. -/
  | closed

/-- Why a run does not go on with the next instruction. -/
inductive Halt where
  /-- More has to be read. -/
  | blocked
  | quit (status : Nat)
  /-- The round ends; the space may be written, and it may be kept. -/
  | round (writes keeps : Bool)

/-- The state of a run. -/
structure Editing where
  rest : List Char
  ended : Bool
  quiet : Bool
  space : List Char := []
  held : List Char := []
  lineNumber : Nat := 0
  /-- The line in the space had its line end. -/
  complete : Bool := true
  /-- The same of the text that is held. -/
  heldComplete : Bool := true
  /-- What was written last lacks its line end. -/
  unfinished : Bool := false
  /-- What was written, the latest piece first. -/
  written : List (List Char) := []
  /-- What is written at the end of the round. -/
  queued : List (List Char) := []
  replaced : Bool := false
  /-- The instructions whose range has begun, and perhaps ended for good. -/
  ranges : List (Nat × Progress) := []
  lastPattern : Option Pattern := none

/-- Something a run does. -/
abbrev Act (α : Type) := ExceptT Halt (StateM Editing) α

/-! ## Writing -/

/-- Write a text as it is, after the line end that may be missing. -/
def emit (text : List Char) : Act Unit :=
  modify fun e => { e with
    written := text :: (if e.unfinished then ['\n'] :: e.written else e.written)
    unfinished := false }

/-- Write a line, which has its end if the line read last had. -/
def emitLine (line : List Char) : Act Unit := do
  let complete := (← get).complete
  emit (if complete then line ++ ['\n'] else line)
  modify fun e => { e with unfinished := !complete }

/-- Write what was put off to the end of the round. -/
def emitQueued : Act Unit := do
  for text in (← get).queued do emit text
  modify fun e => { e with queued := [] }

/-! ## Reading -/

def isLast : Act Bool := do
  let e ← get
  if e.rest.isEmpty then if e.ended then return true else throw .blocked
  else return false

/-- Read a line; says whether there is one. -/
def readLine? : Act (Option (List Char)) := do
  let e ← get
  match cutLine e.rest with
  | some (line, rest) => do
    set { e with rest, complete := true, lineNumber := e.lineNumber + 1, replaced := false }
    return some line
  | none =>
    if !e.ended then throw .blocked
    else if e.rest.isEmpty then return none
    else do
      set { e with
        rest := [], complete := false, lineNumber := e.lineNumber + 1, replaced := false }
      return some e.rest

/-! ## Choosing lines -/

/-- The expression to match, which is noted as the one used last.  Where none
was used before, the run ends. -/
def usedPattern (pattern : Option Pattern) : Act Pattern := do
  match pattern, (← get).lastPattern with
  | some given, _ => do
    modify fun e => { e with lastPattern := pattern }
    return given
  | none, some last => return last
  | none, none => throw (.quit 1)

/-- Whether an address chooses the line in the space. -/
def Address.chooses (address : Address) : Act Bool := do
  let e ← get
  match address with
  | .zero => return false
  | .line number => return e.lineNumber = number
  | .last => isLast
  | .step first every =>
    return if every = 0 then e.lineNumber = first
      else first ≤ e.lineNumber && (e.lineNumber - first) % every = 0
  | .fits pattern => return ((← usedPattern pattern).find? e.space).isSome

/-- Note how far the range of an instruction is. -/
def setRange (index : Nat) (progress : Option Progress) : Act Unit :=
  modify fun e => { e with
    ranges := (progress.map (index, ·)).toList ++ e.ranges.filter (·.1 != index) }

/-- End a range; one that begins at a line's number does not begin again. -/
def endRange (index : Nat) (first : Address) : Act Unit :=
  setRange index (match first with
    | .line _ => some .closed
    | _ => none)

/-- Whether a range has begun for an instruction. -/
def inRange (index : Nat) : Act Bool :=
  return match (← get).ranges.lookup index with
    | some (.begun _) => true
    | _ => false

/-- Begin a range, which may end with the line in the space; says whether it
holds that line. -/
def beginRange (index : Nat) (first : Address) (limit : Limit) : Act Bool := do
  let number := (← get).lineNumber
  let upTo (last : Nat) : Act Bool := do
    if number < last then setRange index (some (.begun (some last)))
    else endRange index first
    return match first with
      | .line start => number ≤ last || number = start
      | _ => true
  match limit with
  | .upTo (.line last) => upTo last
  | .upTo .last => do
    if ← isLast then endRange index first else setRange index (some (.begun none))
    return true
  | .upTo _ => do
    setRange index (some (.begun none))
    return true
  | .further count => upTo (number + count)
  | .multiple 0 => upTo number
  | .multiple of => upTo (number + of - number % of)

/-- Whether a range that has begun holds the line in the space.  Where the last
line was passed over, a range whose end was counted holds one line more. -/
def staysInRange (index : Nat) (first : Address) (limit : Limit) (last : Option Nat) :
    Act Bool := do
  let number := (← get).lineNumber
  match last, limit with
  | some last, limit => do
    if last ≤ number then endRange index first
    return match limit with
      | .upTo _ => number ≤ last
      | _ => true
  | none, .upTo address => do
    if ← address.chooses then endRange index first
    return true
  | none, _ => return true

/-- Whether a range begins with the line in the space: one that begins at a
line's number also when that line was passed over. -/
def rangeBegins (first : Address) : Act Bool := do
  match first with
  | .line start => return start ≤ (← get).lineNumber
  | first => first.chooses

/-- Whether an instruction is carried out on the line in the space. -/
def Selection.chooses (selection : Selection) (index : Nat) : Act Bool := do
  let chosen ← match selection.first, selection.limit with
    | none, _ => pure true
    | some first, none => first.chooses
    | some first, some limit => do
      match (← get).ranges.lookup index with
      | some (.begun last) => staysInRange index first limit last
      | some .closed => pure false
      | none => if ← rangeBegins first then beginRange index first limit else pure false
  return chosen != selection.negated

/-! ## Replacing -/

/-- A text with the case of its letters changed: the first letter as one change
says, the others as another says. -/
def changed (once mode : CaseChange) (text : List Char) : List Char :=
  let apply (change : CaseChange) (c : Char) : Char :=
    match change with
    | .upper => c.toUpper
    | .nextUpper => c.toUpper
    | .lower => c.toLower
    | .nextLower => c.toLower
    | .plain => c
  match text with
  | [] => []
  | c :: rest => apply (if once = .plain then mode else once) c :: rest.map (apply mode)

/-- What replaces a match. -/
def replacement (found : Pattern.Match) : CaseChange → CaseChange → List TemplatePart → List Char
  | _, _, [] => []
  | once, mode, part :: rest =>
    let put (text : List Char) : List Char :=
      changed once mode text
        ++ replacement found (if text.isEmpty then once else .plain) mode rest
    match part with
    | .text chars => put chars
    | .group 0 => put found.inside
    | .group number => put ((found.groups.lookup number).getD [])
    | .change .nextUpper => replacement found .nextUpper mode rest
    | .change .nextLower => replacement found .nextLower mode rest
    | .change change => replacement found once change rest

/-- Replace matches behind a place, given how many came before.  Behind a match
an empty one does not count. -/
def replaceFrom (pattern : Pattern) (s : Substitution) :
    Nat → Nat → Bool → Spot → List Char × Bool
  | 0, _, _, spot => (spot.rest, false)
  | bound + 1, count, behindMatch, spot =>
    match pattern.search? spot.rest.length spot with
    | none => (spot.rest, false)
    | some found =>
      let step (text : List Char) (done : Bool) (count : Nat) (behind : Bool) (next : Spot) :
          List Char × Bool :=
        let others := replaceFrom pattern s bound count behind next
        (text ++ others.1, done || others.2)
      if found.inside.isEmpty && found.before.isEmpty && behindMatch then
        match spot.rest with
        | [] => ([], false)
        | c :: _ => step [c] false count false (spot.advance 1)
      else
        let replaces := count + 1 = s.nth || (s.everywhere && s.nth ≤ count + 1)
        let shown := found.before
          ++ (if replaces then replacement found .plain .plain s.template else found.inside)
        if replaces && !s.everywhere then (shown ++ found.after.rest, true)
        else if found.inside.isEmpty then
          match found.after.rest with
          | [] => (shown, replaces)
          | c :: _ => step (shown ++ [c]) replaces (count + 1) false (found.after.advance 1)
        else step shown replaces (count + 1) true found.after

/-- A text with its matches replaced; says whether there were any. -/
def replaced (pattern : Pattern) (s : Substitution) (text : List Char) : List Char × Bool :=
  replaceFrom pattern s (text.length + 2) 0 false ⟨none, text⟩

/-! ## Listing -/

/-- A character as it is listed. -/
def listed (c : Char) : List Char :=
  let octal := Nat.toDigits 8 c.toNat
  match c with
  | '\\' => ['\\', '\\']
  | '\n' => ['\\', 'n']
  | '\t' => ['\\', 't']
  | '\r' => ['\\', 'r']
  | c =>
    if c.toNat = 7 then ['\\', 'a']
    else if c.toNat = 8 then ['\\', 'b']
    else if c.toNat = 12 then ['\\', 'f']
    else if c.toNat = 11 then ['\\', 'v']
    else if c.toNat < 32 ∨ 127 ≤ c.toNat then
      '\\' :: List.replicate (3 - octal.length) '0' ++ octal
    else [c]

/-- A text as it is listed, cut into lines of a width. -/
def listing (width : Nat) (text : List Char) : List Char :=
  go 0 (text.map listed)
where
  go : Nat → List (List Char) → List Char
    | _, [] => ['$', '\n']
    | column, piece :: rest =>
      if 0 < width && width - 1 < column + piece.length then
        ['\\', '\n'] ++ piece ++ go piece.length rest
      else piece ++ go (column + piece.length) rest

/-! ## Carrying out instructions -/

/-- The place of a label, or of the end for an empty one. -/
def target (script : List Instruction) (name : List Char) : Nat :=
  if name.isEmpty then script.length
  else script.findIdx fun instruction =>
    match instruction.verb with
    | .label other => other == name
    | _ => false

/-- The place behind the end of a block whose inside begins at a place. -/
def blockEnd (script : List Instruction) (start : Nat) : Nat :=
  go 0 start (script.drop start)
where
  go : Nat → Nat → List Instruction → Nat
    | _, place, [] => place
    | depth, place, instruction :: rest =>
      match instruction.verb with
      | .opening => go (depth + 1) (place + 1) rest
      | .closing => if depth = 0 then place + 1 else go (depth - 1) (place + 1) rest
      | _ => go depth (place + 1) rest

/-- Read the next line, or end with what is there if there is none. -/
def demandLine : Act (List Char) := do
  if ← isLast then throw (.round true false)
  match ← readLine? with
  | some line => return line
  | none => throw (.round true false)

/-- Carry out an instruction at a place; says where to go on. -/
def perform (script : List Instruction) (index : Nat) (verb : Verb) : Act Nat := do
  let e ← get
  let space (text : List Char) : Act Unit := modify fun e => { e with space := text }
  let firstLine := e.space.takeWhile (· != '\n')
  match verb with
  | .substitute s => do
    let (text, found) := replaced (← usedPattern s.pattern) s e.space
    if found then do
      modify fun e => { e with space := text, replaced := true }
      for _ in List.range s.prints do emitLine text
    return index + 1
  | .transliterate pairs => do
    space (e.space.map fun c => (pairs.lookup c).getD c)
    return index + 1
  | .print => do
    emitLine e.space
    return index + 1
  | .printFirst => do
    if firstLine.length < e.space.length then emit (firstLine ++ ['\n']) else emitLine e.space
    return index + 1
  | .delete => throw (.round false false)
  | .deleteFirst =>
    if e.space.contains '\n' then do
      space (e.space.drop (firstLine.length + 1))
      throw (.round false true)
    else throw (.round false false)
  | .next => do
    if ← isLast then throw (.round true false)
    unless e.quiet do emitLine e.space
    emitQueued
    space (← demandLine)
    return index + 1
  | .joinNext => do
    if ← isLast then throw (.round true false)
    emitQueued
    let line ← demandLine
    space (e.space ++ '\n' :: line)
    return index + 1
  | .takeHeld => do
    modify fun e => { e with space := e.held, complete := e.heldComplete }
    return index + 1
  | .joinHeld => do
    modify fun e => { e with
      space := e.space ++ '\n' :: e.held, complete := e.heldComplete }
    return index + 1
  | .hold => do
    modify fun e => { e with held := e.space, heldComplete := e.complete }
    return index + 1
  | .joinToHeld => do
    modify fun e => { e with
      held := e.held ++ '\n' :: e.space, heldComplete := e.complete }
    return index + 1
  | .exchange => do
    modify fun e => { e with
      held := e.space, heldComplete := e.complete
      space := e.held, complete := e.heldComplete }
    return index + 1
  | .clear => do
    space []
    return index + 1
  | .quit status silently => do
    unless silently do
      unless e.quiet do emit (e.space ++ ['\n'])
      emitQueued
    throw (.quit status)
  | .number => do
    emit (Nat.toDigits 10 e.lineNumber ++ ['\n'])
    return index + 1
  | .list width => do
    emit (listing width e.space)
    return index + 1
  | .append text => do
    modify fun e => { e with queued := e.queued ++ [text] }
    return index + 1
  | .insert text => do
    emit text
    return index + 1
  | .change text => do
    unless ← inRange index do emit text
    throw (.round false false)
  | .branch name => return target script name
  | .branchIfReplaced name => do
    modify fun e => { e with replaced := false }
    return if e.replaced then target script name else index + 1
  | .branchUnlessReplaced name => do
    modify fun e => { e with replaced := false }
    return if e.replaced then index + 1 else target script name
  | .label _ => return index + 1
  | .opening => return index + 1
  | .closing => return index + 1
  | .nothing => return index + 1

/-- Carry out instructions from a place on, at most that many. -/
def runFrom (script : List Instruction) : Nat → Nat → Act Unit
  | 0, _ => throw .blocked
  | bound + 1, index =>
    match script[index]? with
    | none => throw (.round true false)
    | some instruction => do
      if ← instruction.selection.chooses index then do
        runFrom script bound (← perform script index instruction.verb)
      else match instruction.verb with
        | .opening => runFrom script bound (blockEnd script (index + 1))
        | _ => runFrom script bound (index + 1)

/-- How many instructions are carried out on one line at most. -/
def patience : Nat := 20000

/-- Carry out rounds, at most that many; the space is kept from the round before
or read.  Says with which status the run ends, if it does. -/
def rounds (script : List Instruction) : Nat → Bool → Editing → Option Nat × Editing
  | 0, _, e => (none, e)
  | bound + 1, kept, e =>
    let round : Act Unit := do
      unless kept do
        match ← readLine? with
        | none => throw (.quit 0)
        | some line => modify fun e => { e with space := line }
      runFrom script patience 0
    match round.run e with
    | (.error .blocked, after) => (none, after)
    | (.error (.quit status), after) => (some status, after)
    | (.error (.round writes keeps), after) =>
      let finish : Act Unit := do
        if writes && !e.quiet then emitLine (← get).space
        emitQueued
      rounds script bound keeps (finish.run after).2
    | (.ok (), after) => rounds script bound false after

/-- The ranges that have begun before the first line. -/
def initialRanges (script : List Instruction) : List (Nat × Progress) :=
  script.zipIdx.filterMap fun (instruction, index) =>
    match instruction.selection.first with
    | some .zero => some (index, .begun none)
    | _ => none

/-- Edit all lines with a script.  Unless every line is written at once, full
blocks are written. -/
def edit (quiet eager : Bool) (script : List Instruction) : Filter := fun input ended =>
  let start : Editing := { rest := input, ended, quiet, ranges := initialRanges script }
  let (status, after) := rounds script (input.length + 2) false start
  let output := after.written.reverse.flatten
  match status with
  | some status => { output, rest := after.rest, done := true, status }
  | none =>
    { output := if eager then output else fullBlocks output, rest := [], done := false }

end LineEditor
end Toolbox
end CompilerRelay
