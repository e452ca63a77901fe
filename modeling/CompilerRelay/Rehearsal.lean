import CompilerRelay.EventLoop

/-!
A compiler that follows a script.

The script says whether launches and dispatches fail, which lines a compiler
writes when it is started, and what it answers to each kind of job.  Each
compiler that was started is remembered by its generation.
-/

namespace CompilerRelay

/-- What compilers are to do.  A script is followed by every compiler that is
started under it, and an answer depends on nothing but the kind of the job. -/
structure Script where
  launchFailure : Option Failure := none
  dispatchFailure : Option Failure := none
  /-- What a compiler does when it is started. -/
  opening : List CompilerEvent := []
  /-- The answers to jobs, by their kind. -/
  answers : List (JobKind × Outcome) := []

/-- A script and the compilers started under it. -/
structure Rehearsal where
  script : Script
  /-- The generations of the compilers, the oldest first. -/
  compilers : List Nat := []

namespace Rehearsal

def react (rehearsal : Rehearsal) : Effect → Rehearsal × List Event
  | .launched generation _ true =>
    ({ rehearsal with compilers := rehearsal.compilers ++ [generation] },
      rehearsal.script.opening.map (.compiler generation))
  | .dispatched generation job true =>
    (rehearsal, ((rehearsal.script.answers.lookup job.kind).map fun outcome =>
      Event.compiler generation (.response job.id outcome)).toList)
  | _ => (rehearsal, [])

/-- The world that a script makes. -/
def world : World Rehearsal where
  verdict rehearsal :=
    ⟨fun _ => rehearsal.script.launchFailure, fun _ => rehearsal.script.dispatchFailure⟩
  react := react

/-- A number of events after which none is left: every event that waits may
start a compiler or submit a job, and every job is answered once. -/
def bound (loop : EventLoop Rehearsal) : Nat :=
  loop.pending.length * (loop.outside.script.opening.length + 2)
    + loop.supervisor.jobs.queue.length

/-- Handle events until none is left. -/
def settle (loop : EventLoop Rehearsal) : EventLoop Rehearsal × List Effect :=
  loop.turns world (bound loop)

end Rehearsal
end CompilerRelay
