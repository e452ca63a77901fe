import CompilerRelay.Proofs.JobQueue.Operation
import CompilerRelay.Proofs.Speech

/-!
# Operations of the queue that tell waiters themselves

The operations of the queue return whom to tell, and the telling is done by
whoever calls them.  Here they are carried out with the telling in its place: a
waiter is told as soon as its job is replaced, done or given up, and answers
whether it was still there.

`Ticket.tell` throws the answer away, and nothing else asks for it.  Each
operation is therefore the one that returns a list, whatever the waiters answer;
`performing_eq` says so for all of them at once.
-/

namespace CompilerRelay

/-- Tell the waiter of a job how it ended.  Whether the waiter was still there is
known after that, and nobody wants to know. -/
def Ticket.tell (ticket : Ticket) (outcome : Outcome) : Speech Resolution Unit :=
  match ticket.waiter with
  | none => pure ()
  | some waiter => do
    let _heard ← Speech.tell (⟨waiter, outcome⟩ : Resolution)
    pure ()

theorem Ticket.tell_eq (ticket : Ticket) (outcome : Outcome) :
    ticket.tell outcome = .say (ticket.resolve outcome) := by
  rcases ticket with ⟨job, waiter⟩
  cases waiter <;> rfl

namespace JobQueue

/-- Give up several jobs, one after the other, and count them. -/
def giveUp : List Ticket → Speech Resolution Nat
  | [] => pure 0
  | ticket :: rest => do
    ticket.tell (.error .unavailable)
    let others ← giveUp rest
    pure (others + 1)

variable (jobs : JobQueue)

/-- Submit a request, and tell the waiter of the job that it replaces, or its own
if it is refused. -/
def submitting (request : Request) (waiter : Option Waiter) :
    Speech Resolution (JobQueue × Option Nat) :=
  let ticket : Ticket := ⟨⟨jobs.nextId, request⟩, waiter⟩
  if jobs.phase = .exited then do
    ticket.tell (.error .unavailable)
    pure (jobs, none)
  else
    let counted := { jobs with nextId := jobs.nextId + 1 }
    match request.coalesceKey.bind fun uri => replace uri ticket jobs.queue with
    | some (queue, superseded) => do
      superseded.tell (.error .superseded)
      pure ({ counted with queue }, some jobs.nextId)
    | none => pure ({ counted with queue := jobs.queue ++ [ticket] }, some jobs.nextId)

/-- End the job in flight, and tell its waiter before anybody else acts on it. -/
def completing (id : Nat) (outcome : Outcome) : Speech Resolution (Option (JobQueue × Job)) :=
  match jobs.inFlight with
  | none => pure none
  | some ticket =>
    if ticket.job.id = id then do
      let phase := if jobs.phase = .busy then .ready else jobs.phase
      ticket.tell outcome
      pure (some ({ jobs with phase, inFlight := none }, ticket.job))
    else pure none

def abandoning (phase : Phase) : Speech Resolution (JobQueue × Nat) := do
  let count ← giveUp jobs.outstanding
  pure ({ jobs with phase, queue := [], inFlight := none }, count)

/-! ## The answers do not matter -/

theorem submitting_eq (request : Request) (waiter : Option Waiter) :
    jobs.submitting request waiter = .perform
      (((jobs.submit request waiter).jobs, (jobs.submit request waiter).id),
        (jobs.submit request waiter).resolved) := by
  simp only [submitting, submit]
  by_cases gone : jobs.phase = .exited
  · simp [gone, Ticket.tell_eq]
  · rw [if_neg gone, if_neg gone]
    cases request.coalesceKey.bind fun uri =>
        replace uri ⟨⟨jobs.nextId, request⟩, waiter⟩ jobs.queue with
    | none => rfl
    | some found => simp [Ticket.tell_eq]

theorem completing_eq (id : Nat) (outcome : Outcome) :
    jobs.completing id outcome = .perform
      ((jobs.complete id outcome).map fun done => (done.jobs, done.job),
        ((jobs.complete id outcome).map (·.resolved)).getD []) := by
  unfold completing complete
  cases jobs.inFlight with
  | none => rfl
  | some ticket =>
      by_cases own : ticket.job.id = id
      · simp [own, Ticket.tell_eq]
      · simp [own]

theorem giveUp_eq (tickets : List Ticket) : giveUp tickets = .perform
    (tickets.length, tickets.flatMap (·.resolve (.error .unavailable))) := by
  induction tickets with
  | nil => rfl
  | cons ticket rest inductionHypothesis =>
      simp [giveUp, inductionHypothesis, Ticket.tell_eq]

theorem abandoning_eq (phase : Phase) : jobs.abandoning phase = .perform
    (((jobs.abandon phase).jobs, (jobs.abandon phase).count), (jobs.abandon phase).resolved) := by
  simp [abandoning, giveUp_eq, abandon]

/-! ## A queue as it is noticed from outside -/

/-- What is noticed of an operation: what it tells, and what it yields to
whoever carries it out.  The queue itself is not noticed. -/
inductive Yield where
  | told (resolution : Resolution)
  /-- The identifier of a new job, unless it was refused. -/
  | numbered (id : Option Nat)
  | taken (job : Option Job)
  | ended (job : Option Job)
  /-- How many jobs were given up. -/
  | lost (count : Nat)
  | readied (changed : Bool)

/-- Carry out an operation.  Its waiters are told first, and then it yields. -/
def performing : Operation → Speech Yield JobQueue
  | .submit request waiter => do
    let (after, id) ← (jobs.submitting request waiter).rephrase .told
    Speech.say [.numbered id]
    pure after
  | .drive => do
    Speech.say [.taken (jobs.drive.map Prod.fst)]
    pure ((jobs.drive.map Prod.snd).getD jobs)
  | .complete id outcome => do
    let done ← (jobs.completing id outcome).rephrase .told
    Speech.say [.ended (done.map Prod.snd)]
    pure ((done.map Prod.fst).getD jobs)
  | .markReady => do
    Speech.say [.readied jobs.markReady.2]
    pure jobs.markReady.1
  | .exit => do
    let (after, count) ← (jobs.abandoning .exited).rephrase .told
    Speech.say [.lost count]
    pure after
  | .restart => do
    let (after, count) ← (jobs.abandoning .notReady).rephrase .told
    Speech.say [.lost count]
    pure after

/-- Whom an operation tells what. -/
def resolved : Operation → List Resolution
  | .submit request waiter => (jobs.submit request waiter).resolved
  | .complete id outcome => ((jobs.complete id outcome).map (·.resolved)).getD []
  | .exit => jobs.exit.resolved
  | .restart => jobs.restart.resolved
  | _ => []

def yield : Operation → Yield
  | .submit request waiter => .numbered (jobs.submit request waiter).id
  | .drive => .taken (jobs.drive.map Prod.fst)
  | .complete id outcome => .ended ((jobs.complete id outcome).map (·.job))
  | .markReady => .readied jobs.markReady.2
  | .exit => .lost jobs.exit.count
  | .restart => .lost jobs.restart.count

/-- The queue after an operation, and all that is noticed of it. -/
def operate (operation : Operation) : JobQueue × List Yield :=
  ((jobs.perform operation).1, (jobs.resolved operation).map .told ++ [jobs.yield operation])

/-- Whatever the waiters answer, an operation goes as if nobody had asked them. -/
theorem performing_eq (operation : Operation) :
    jobs.performing operation = .perform (jobs.operate operation) := by
  cases operation with
  | submit request waiter =>
      simp [performing, submitting_eq, operate, perform, resolved, yield]
  | drive =>
      simp only [performing, operate, perform, resolved, yield]
      cases jobs.drive <;> rfl
  | complete id outcome =>
      simp only [performing, completing_eq, operate, perform, resolved, yield]
      cases jobs.complete id outcome <;> simp
  | markReady => rfl
  | exit => simp [performing, abandoning_eq, operate, perform, resolved, yield, JobQueue.exit]
  | restart => simp [performing, abandoning_eq, operate, perform, resolved, yield, JobQueue.restart]

end JobQueue
end CompilerRelay
