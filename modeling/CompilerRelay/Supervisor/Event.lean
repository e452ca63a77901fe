import CompilerRelay.Failure
import CompilerRelay.JobQueue
import CompilerRelay.Ledger
import CompilerRelay.Log
import CompilerRelay.Message
import CompilerRelay.Notice
import CompilerRelay.Settings

/-!
What the supervisor is told, and what it does about it.

An event is all that reaches the supervisor, and effects are all that leaves
it, in order.  A compiler is known by its generation, the number of the launch
attempt that started it.
-/

namespace CompilerRelay

/-- Something the supervisor is told.  Events of compilers carry the generation
of the compiler, by which those of an earlier one are told apart. -/
inductive Event where
  /-- Start the first compiler. -/
  | launch (settings : Settings)
  /-- Replace the compiler. -/
  | restart (settings : Settings)
  | submit (request : Request) (waiter : Option Waiter)
  /-- Something the compiler of a generation did. -/
  | compiler (generation : Nat) (event : CompilerEvent)
  /-- Somebody asks how things stand. -/
  | status (waiter : Waiter)
  | stop

/-- How things stand. -/
structure Status where
  phase : Phase
  pending : Nat
  inFlight : Option Nat
  /-- The number of documents that show diagnostics. -/
  tracked : Nat
  generation : Nat
  deriving DecidableEq, Repr

namespace Status

def toJson (status : Status) : Json :=
  let inFlight := match status.inFlight with
    | some id => Json.int id
    | none => .null
  .obj [("generation", .int status.generation), ("inFlight", inFlight),
    ("pending", .int status.pending), ("state", status.phase.toJson),
    ("trackedUris", .int status.tracked)]

end Status

/-- Something the supervisor does.  The order of effects is the order in which
they are done, and some of them are attempts that failed. -/
inductive Effect where
  /-- A launch was attempted, and a compiler was started or not. -/
  | launched (generation : Nat) (settings : LaunchSettings) (started : Bool)
  /-- The compiler was told to end. -/
  | terminated (generation : Nat)
  /-- The compiler was let go, because it is gone or of no use. -/
  | released (generation : Nat)
  /-- A job was handed to the compiler, which took it or not. -/
  | dispatched (generation : Nat) (job : Job) (accepted : Bool)
  | published (publication : Publication)
  | notified (notice : Notice)
  | resolved (resolution : Resolution)
  /-- A question about how things stand was answered. -/
  | reported (waiter : Waiter) (status : Option Status)
  | logged (entry : LogEntry)

namespace Event

/-- What becomes of an event that is never handled: its waiter is told. -/
def unhandled : Event → List Effect
  | submit _ (some waiter) => [.resolved ⟨waiter, .error .unavailable⟩]
  | status waiter => [.reported waiter none]
  | _ => []

end Event
end CompilerRelay
