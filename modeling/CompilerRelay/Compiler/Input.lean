import CompilerRelay.Job
import CompilerRelay.Compiler.Output
import CompilerRelay.Supervisor.Event

/-!
What a compiler is given to read.

Jobs wait as lines in a queue of bounded length.  A writer takes a line from
there, writes its bytes as the compiler accepts them, and then takes the next
one.  When a write fails the writer stops, the lines that waited are lost, and
no further job is taken.
-/

namespace CompilerRelay
namespace Compiler

/-- The input of a compiler: lines that wait, the line in the hand of the
writer, and the bytes written.  A failed write ends the writer and is told to
nobody. -/
structure Input where
  waiting : List String := []
  /-- The bytes of the line the writer has taken that are not written yet. -/
  hand : List UInt8 := []
  /-- All bytes that were written. -/
  written : List UInt8 := []
  /-- A write has failed. -/
  broken : Bool := false

namespace Input

/-- How many lines may wait. -/
def capacity : Nat := 32

/-- A job's line as bytes, with the line feed. -/
def bytesOf (line : String) : List UInt8 :=
  Text.Utf8.encode line.toList ++ [Output.lineFeed]

/-- The reason why a job is not taken. -/
def refusal : Failure :=
  ⟨["compiler input is closed or full"]⟩

def offer (input : Input) (job : Job) : Except Failure Input :=
  if input.broken ∨ capacity ≤ input.waiting.length then .error refusal
  else .ok { input with waiting := input.waiting ++ [job.line] }

/-- Let the writer take the next line, once it has written the last one. -/
def take (input : Input) : Input :=
  match input.hand, input.waiting with
  | [], line :: rest => { input with waiting := rest, hand := bytesOf line }
  | _, _ => input

/-- Let the writer write some of the bytes it has. -/
def put (count : Nat) (input : Input) : Input :=
  { input with
    hand := input.hand.drop count
    written := input.written ++ input.hand.take count }

def fail (input : Input) : Input :=
  { input with waiting := [], hand := [], broken := true }

/-- Let the writer write the next line to a compiler that accepts it or not. -/
def writeNext (accepts : Bool) (input : Input) : Input :=
  let taken := input.take
  if taken.hand.isEmpty then taken
  else if accepts then taken.put taken.hand.length
  else taken.fail

/-- Let the writer write every line that waits. -/
def writeAll (accepts : Bool) (input : Input) : Input :=
  input.waiting.foldl (fun after _ => after.writeNext accepts) input

end Input
end Compiler
end CompilerRelay
