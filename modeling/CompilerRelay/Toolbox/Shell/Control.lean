import CompilerRelay.Toolbox.Shell.Expansion
import CompilerRelay.Toolbox.Shell.Reader

/-!
The order in which commands are carried out.

A text is carried out line by line.  Loops, pipes and shells inside the shell
are put together from commands that are carried out by a given runner.
-/

namespace CompilerRelay
namespace Toolbox
namespace Shell

/-- Carry something out whose failure is looked at. -/
def testing (act : Act Unit) : Act Unit := do
  let s ← get
  set { s with tested := true, final := false }
  mending act fun after => { after with tested := s.tested, final := s.final }

/-- Carry something out behind which something is left to do. -/
def surrounded (act : Act α) : Act α := do
  let s ← get
  set { s with final := false }
  mending act fun after => { after with final := s.final }

/-- Carry something out that ends the script if it fails, where that is asked
for. -/
def checked (act : Act Unit) : Act Unit := do
  act
  let s ← get
  if s.hasOption 'e' && !s.tested && s.status != 0 then throw .exited

/-! ## Texts -/

/-- Carry out what is left of a text.  The last line of a whole script has nothing
behind it. -/
def runLines (run : Runner) (whole : Bool) : Nat → Source → Act Unit
  | 0, _ => return ()
  | bound + 1, source =>
    match Reader.commandLine.run source with
    | .error mistake => do
      modify fun s => { s with line := mistake.line }
      fail mistake.fault.message
    | .ok (none, _) => return ()
    | .ok (some command, next) => do
      modify fun s => { s with final := whole && next.rest.isEmpty }
      run command
      runLines run whole bound next

/-- Whether a text holds no command. -/
def isVoid (text : List Char) : Bool :=
  match Reader.commandLine.run { rest := text } with
  | .ok (none, _) => true
  | _ => false

def runText (run : Runner) (whole : Bool) (text : List Char) : Act Unit := do
  let final := (← get).final
  if isVoid text then succeed
  mending (runLines run whole (text.length + 1) { rest := text }) fun after => { after with final }

/-- What is done at the end. -/
def lastWords : String := "EXIT"

/-- Carry something out and then what is to be done at the end. -/
def withLastWords (run : Runner) (act : Act Unit) : Act Unit := do
  let (result, after) := act.run (← get)
  set after
  let ends := match result with
    | .error .blocked => false
    | .error .exhausted => false
    | .error .killed => false
    | .error .replaced => false
    | _ => true
  match ends, after.traps.lookup lastWords with
  | true, some text => do
    let (last, s) := (runText run false text).run
      { after with
        traps := after.traps.filter (·.1 != lastWords), leaving := some after.status
        tested := false, loops := 0 }
    set s
    match last with
    | .error .exited => return ()
    | .error .failed => return ()
    | .error .returned => finish after.status
    | .error stop => throw stop
    | .ok () => finish after.status
  | _, _ =>
    match result with
    | .error stop => throw stop
    | .ok () => return ()

/-! ## Shells inside the shell -/

/-- Carry out a command in a shell of its own. -/
def inOwnShell (run : Runner) (body : Command) : Act Unit := do
  let s ← get
  let stop ← apart (s.final && s.traps.isEmpty) id (withLastWords run (run body))
  match stop with
  | some stop => throw stop
  | none => return ()

/-- Carry out two commands at once, the second one reading what the first one
writes.  A first command that goes on for ever ends when nobody reads it. -/
def pipe (run : Runner) (left right : Command) : Act Unit := do
  let sink ← newSink
  let first ← apart false (·.withStream 1 (some (.sink sink))) (withLastWords run (run left))
  let text ← takeWritten sink
  let ended := first.isNone && !(← get).holds (.sink sink)
  let inflow ← newInflow text ended
  let second ← apart false (·.withStream 0 (some (.inflow inflow)))
    (withLastWords run (run right))
  match first, second with
  | some .killed, _ => throw .killed
  | some .blocked, _ => throw .blocked
  | some .exhausted, some _ => throw .exhausted
  | _, some stop => throw stop
  | _, none => return ()

/-- Start a command in the background.  It reads nothing, and the shell goes on
before it writes. -/
def startTask (run : Runner) (command : Command) : Act Unit := do
  let sink ← newSink
  let before := (← get).settled.written
  let stop ← apart false (·.withStream 0 (some .nothing)) (withLastWords run (run command))
  let s ← get
  match stop with
  | some .killed => throw .killed
  | _ => do
    let task : Task :=
      { number := ownNumber + sink
        status := if stop.isNone then some s.status else none
        streams := (s.withStream 0 (some .nothing)).streams }
    set { s with
      tasks := task :: s.tasks, status := 0, written := before
      late := s.written.take (s.written.length - before.length) }

/-! ## Loops -/

/-- Carry out one round of a loop; says whether the loop goes on. -/
def round (act : Act Unit) : Act Bool := do
  let s ← get
  let (result, after) := act.run { s with loops := s.loops + 1, final := false }
  set { after with loops := s.loops, final := s.final }
  match result with
  | .ok () => return true
  | .error (.broke count) => if 1 < count then throw (.broke (count - 1)) else return false
  | .error (.continued count) => if 1 < count then throw (.continued (count - 1)) else return true
  | .error stop => throw stop

/-- How many rounds of a loop are waited for. -/
def patience : Nat := 30000

/-- Repeat a body while a condition holds, or until it does. -/
def repeating (run : Runner) (condition body : Command) (untilHolds : Bool) : Nat → Nat → Act Unit
  | 0, _ => throw .exhausted
  | bound + 1, status => do
    let goesOn ← round do
      testing (run condition)
      if ((← get).status == 0) == untilHolds then do
        finish status
        throw (.broke 1)
      else run body
    if goesOn then repeating run condition body untilHolds bound (← get).status

def forEach (run : Runner) (name : List Char) (body : Command) : List (List Char) → Act Unit
  | [] => return ()
  | text :: rest => do
    assign name text
    if ← round (run body) then forEach run name body rest

/-- Whether a text matches one of several patterns. -/
def matchesAny (run : Runner) (text : List Char) : List Word → Act Bool
  | [] => return false
  | pattern :: rest => do
    if globMatches (← expandPattern run pattern) text then return true
    else matchesAny run text rest

def selectArm (run : Runner) (text : List Char) : List (List Word × Command) → Act Unit
  | [] => succeed
  | (patterns, body) :: rest => do
    if ← matchesAny run text patterns then
      match body with
      | .nothing => succeed
      | body => run body
    else selectArm run text rest

end Shell
end Toolbox
end CompilerRelay
