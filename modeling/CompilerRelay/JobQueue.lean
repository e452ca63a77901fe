import CompilerRelay.Job
import CompilerRelay.Outcome
import CompilerRelay.Phase

/-!
The queue of jobs and the one job in flight.

Jobs are handed over in the order of the queue, one at a time, and only while
the compiler is ready.  A request to recompile a document takes the place of a
queued one for the same document, with an identifier of its own; the job in
flight is never replaced.  Nothing here performs any effect: each operation
yields the queue after it and the waiters it answers.
-/

namespace CompilerRelay

/-- A job and the waiter to tell how it ended.  A job without a waiter is
carried out all the same, and nobody is told. -/
structure Ticket where
  job : Job
  waiter : Option Waiter
  deriving DecidableEq, Repr

namespace Ticket

/-- What the waiter of a job is told. -/
def resolve (ticket : Ticket) (outcome : Outcome) : List Resolution :=
  ticket.waiter.toList.map (⟨·, outcome⟩)

/-- The document whose later job may take this one's place. -/
def coalesceKey (ticket : Ticket) : Option Uri :=
  ticket.job.request.coalesceKey

end Ticket

/-- The jobs that are not done, and the next identifier.  One job at most is in
flight, and the others wait in the order in which they will be handed over. -/
structure JobQueue where
  phase : Phase
  queue : List Ticket
  inFlight : Option Ticket
  nextId : Nat
  deriving DecidableEq, Repr

namespace JobQueue

/-- The queue before any job, waiting for a compiler. -/
def initial : JobQueue where
  phase := .notReady
  queue := []
  inFlight := none
  nextId := 1

def inFlightId (jobs : JobQueue) : Option Nat :=
  jobs.inFlight.map (·.job.id)

/-- Every job that is not done; the one in flight comes first. -/
def outstanding (jobs : JobQueue) : List Ticket :=
  jobs.inFlight.toList ++ jobs.queue

/-- Put a ticket in the place of the first one for a document, if there is
one; the ticket that had the place is returned. -/
def replace (uri : Uri) (ticket : Ticket) : List Ticket → Option (List Ticket × Ticket)
  | [] => none
  | first :: rest =>
    if first.coalesceKey = some uri then some (ticket :: rest, first)
    else (replace uri ticket rest).map fun found => (first :: found.1, found.2)

/-- The outcome of submitting a request: the queue after it, and whoever is told
at once.  That is the waiter of a job that was replaced, or the new one if the
request was refused. -/
structure Submission where
  jobs : JobQueue
  /-- The identifier of the new job, unless it was refused. -/
  id : Option Nat
  resolved : List Resolution

/-- Submit a request.  It is refused while there is no compiler. -/
def submit (jobs : JobQueue) (request : Request) (waiter : Option Waiter) : Submission :=
  let ticket : Ticket := ⟨⟨jobs.nextId, request⟩, waiter⟩
  if jobs.phase = .exited then
    ⟨jobs, none, ticket.resolve (.error .unavailable)⟩
  else
    let counted := { jobs with nextId := jobs.nextId + 1 }
    match request.coalesceKey.bind fun uri => replace uri ticket jobs.queue with
    | some (queue, superseded) =>
      ⟨{ counted with queue }, some jobs.nextId, superseded.resolve (.error .superseded)⟩
    | none => ⟨{ counted with queue := jobs.queue ++ [ticket] }, some jobs.nextId, []⟩

/-- Move the first queued job into flight, if the compiler is ready for it.
Whether the compiler takes it is found out afterwards; if not, all jobs are
given up. -/
def drive (jobs : JobQueue) : Option (Job × JobQueue) :=
  match jobs.phase, jobs.inFlight, jobs.queue with
  | .ready, none, next :: rest =>
    some (next.job, { jobs with phase := .busy, queue := rest, inFlight := some next })
  | _, _, _ => none

/-- A job that ended with an answer of the compiler. -/
structure Completion where
  jobs : JobQueue
  job : Job
  resolved : List Resolution

/-- End the job in flight.  An answer to any other job is stale and ignored. -/
def complete (jobs : JobQueue) (id : Nat) (outcome : Outcome) : Option Completion :=
  match jobs.inFlight with
  | none => none
  | some ticket =>
    if ticket.job.id = id then
      let phase := if jobs.phase = .busy then .ready else jobs.phase
      some ⟨{ jobs with phase, inFlight := none }, ticket.job, ticket.resolve outcome⟩
    else none

/-- The outcome of giving up every job. -/
structure Abandonment where
  jobs : JobQueue
  /-- How many jobs were given up. -/
  count : Nat
  resolved : List Resolution

/-- Give up every job that is not done, and enter a phase. -/
def abandon (jobs : JobQueue) (phase : Phase) : Abandonment where
  jobs := { jobs with phase, queue := [], inFlight := none }
  count := jobs.outstanding.length
  resolved := jobs.outstanding.flatMap (·.resolve (.error .unavailable))

/-- The compiler is gone. -/
def exit (jobs : JobQueue) : Abandonment :=
  jobs.abandon .exited

/-- Another compiler is about to be started. -/
def restart (jobs : JobQueue) : Abandonment :=
  jobs.abandon .notReady

/-- The compiler says it is ready, which counts only while that is awaited. -/
def markReady (jobs : JobQueue) : JobQueue × Bool :=
  if jobs.phase = .notReady then ({ jobs with phase := .ready }, true) else (jobs, false)

end JobQueue
end CompilerRelay
