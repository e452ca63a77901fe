import CompilerRelay.Compiler.Input
import CompilerRelay.EventLoop
import CompilerRelay.Toolbox.Catalog

/-!
Running compilers.

A child is a program, what it was given to read, and how much of what it
tells was passed on.  The workshop holds the children of a supervisor; it is
the world in which launches and dispatches are carried out.
-/

namespace CompilerRelay
namespace Compiler

/-- A program that was started as a compiler.  What a program has done follows
from the bytes that it was given, so it need not be remembered. -/
structure Child where
  generation : Nat
  program : Toolbox.Program
  input : Input := {}
  killed : Bool := false
  /-- How many events were passed on. -/
  passed : Nat := 0

namespace Child

/-- What the program has done so far. -/
def run (child : Child) : Toolbox.Run :=
  child.program (Toolbox.ofBytes child.input.written) false

/-- All that the child has told. -/
def told (child : Child) : List CompilerEvent :=
  let run := child.run
  let stream := Toolbox.toBytes run.output
  if child.killed || run.outputClosed then Output.events stream else Output.heard stream

/-- Pass on what was told since the last time. -/
def news (child : Child) : Child × List CompilerEvent :=
  let told := child.told
  ({ child with passed := told.length }, told.drop child.passed)

def accepts (child : Child) : Bool :=
  !child.killed && !child.run.inputClosed

def offer (child : Child) (job : Job) : Except Failure Child :=
  (child.input.offer job).map fun input => { child with input }

def write (child : Child) : Child :=
  { child with input := child.input.writeAll child.accepts }

def kill (child : Child) : Child :=
  { child with killed := true }

def start (generation : Nat) (settings : LaunchSettings) : Except Failure Child :=
  (Toolbox.launch settings).map fun program => { generation, program }

end Child

/-- The children of a supervisor, the latest first. -/
abbrev Workshop := List Child

namespace Workshop

/-- Let one child go on, and post what it tells. -/
def advance (generation : Nat) (change : Child → Child) :
    Workshop → Workshop × List Event
  | [] => ([], [])
  | child :: rest =>
    if child.generation = generation then
      let told := (change child).news
      (told.1 :: rest, told.2.map (.compiler generation))
    else
      let others := advance generation change rest
      (child :: others.1, others.2)

def react (workshop : Workshop) : Effect → Workshop × List Event
  | .launched generation settings true =>
    match Child.start generation settings with
    | .ok child => advance generation id (child :: workshop)
    | .error _ => (workshop, [])
  | .dispatched generation job true =>
    advance generation
      (fun child => ((child.offer job).toOption.getD child).write) workshop
  | .terminated generation => advance generation Child.kill workshop
  | .released generation => advance generation Child.kill workshop
  | _ => (workshop, [])

/-- The failure of a result, if it is one. -/
def failureOf? : Except Failure α → Option Failure
  | .ok _ => none
  | .error failure => some failure

/-- The world of running compilers. -/
def world : World Workshop where
  verdict workshop :=
    { launch := fun settings => failureOf? (Child.start 0 settings)
      dispatch := fun job =>
        match workshop with
        | [] => some Input.refusal
        | child :: _ => failureOf? (child.offer job) }
  react := react

end Workshop
end Compiler
end CompilerRelay
