import CompilerRelay.Proofs.JobQueue
import Mathlib.Data.List.Induction

/-!
# Histories of a job queue

An `Operation` is anything that can be done to a job queue, and a history is a
list of operations in any order, with any arguments.  `performAll` carries one
out and collects the jobs that were taken for the compiler.

Which requests a history submits can be read off it without looking at any
queue.  While the compiler is not lost, none of them is refused, so their jobs
are `numbered` in the order of the history, and statements about histories
compare the jobs that were taken with this list.
-/

namespace CompilerRelay

/-- The jobs for several requests, with consecutive identifiers. -/
def numbered (first : Nat) (requests : List Request) : List Job :=
  (requests.zipIdx first).map fun entry => ⟨entry.2, entry.1⟩

theorem numbered_cons (first : Nat) (request : Request) (rest : List Request) :
    numbered first (request :: rest) = ⟨first, request⟩ :: numbered (first + 1) rest :=
  rfl

theorem numbered_append (first : Nat) (early late : List Request) :
    numbered first (early ++ late) =
      numbered first early ++ numbered (first + early.length) late := by
  rw [numbered, List.zipIdx_append, List.map_append]
  rfl

theorem ids_numbered (first : Nat) (requests : List Request) :
    (numbered first requests).map (·.id) = List.range' first requests.length := by
  rw [numbered, List.map_map]
  exact List.zipIdx_map_snd first requests

namespace JobQueue

/-- Something that is done to a job queue.  A history is a list of operations in
any order, also in orders in which the supervisor never carries them out. -/
inductive Operation where
  | submit (request : Request) (waiter : Option Waiter)
  | drive
  | complete (id : Nat) (outcome : Outcome)
  | markReady
  | exit
  | restart

namespace Operation

def request? : Operation → Option Request
  | submit request _ => some request
  | _ => none

/-- Whether the operation gives up every job that is not done. -/
def abandons : Operation → Bool
  | exit => true
  | restart => true
  | _ => false

end Operation

def requests (history : List Operation) : List Request :=
  history.filterMap Operation.request?

/-- The queue after an operation, and the job that was taken for the compiler. -/
def perform (jobs : JobQueue) : Operation → JobQueue × Option Job
  | .submit request waiter => ((jobs.submit request waiter).jobs, none)
  | .drive => match jobs.drive with
    | some (job, next) => (next, some job)
    | none => (jobs, none)
  | .complete id outcome => match jobs.complete id outcome with
    | some done => (done.jobs, none)
    | none => (jobs, none)
  | .markReady => (jobs.markReady.1, none)
  | .exit => (jobs.exit.jobs, none)
  | .restart => (jobs.restart.jobs, none)

def performAll (jobs : JobQueue) : List Operation → JobQueue × List Job
  | [] => (jobs, [])
  | operation :: rest =>
    let first := jobs.perform operation
    let others := first.1.performAll rest
    (others.1, first.2.toList ++ others.2)

@[simp] theorem requests_append (early late : List Operation) :
    requests (early ++ late) = requests early ++ requests late :=
  List.filterMap_append

theorem performAll_append (jobs : JobQueue) (early late : List Operation) :
    jobs.performAll (early ++ late) =
      (((jobs.performAll early).1.performAll late).1,
        (jobs.performAll early).2 ++ ((jobs.performAll early).1.performAll late).2) := by
  induction early generalizing jobs with
  | nil => rfl
  | cons operation rest inductionHypothesis =>
      simp only [List.cons_append, performAll, inductionHypothesis, List.append_assoc]

theorem performAll_concat (jobs : JobQueue) (history : List Operation) (last : Operation) :
    jobs.performAll (history ++ [last]) =
      (((jobs.performAll history).1.perform last).1,
        (jobs.performAll history).2 ++ ((jobs.performAll history).1.perform last).2.toList) := by
  rw [performAll_append]
  simp only [performAll, List.append_nil]

theorem perform_drive_of_ready {jobs : JobQueue} {ticket : Ticket} {rest : List Ticket}
    (ready : jobs.phase = .ready) (free : jobs.inFlight = none)
    (split : jobs.queue = ticket :: rest) : jobs.perform .drive =
      ({ jobs with phase := .busy, queue := rest, inFlight := some ticket }, some ticket.job) := by
  have driven := (jobs.drive_eq_some_iff _ _).mpr ⟨ticket, rest, ready, free, split, rfl, rfl⟩
  simp only [perform, driven]

theorem perform_drive_of_rest {jobs : JobQueue} (nothing : ¬ (jobs.phase = .ready ∧
    jobs.inFlight = none ∧ jobs.queue ≠ [])) : jobs.perform .drive = (jobs, none) := by
  have resting := (jobs.drive_eq_none_iff).mpr nothing
  simp only [perform, resting]

/-- How an operation can go: the queue after it, and the job that was taken.  An
operation whose time has not come leaves the queue as it is and is a case like
the others. -/
inductive Performs (jobs : JobQueue) : Operation → JobQueue → Option Job → Prop
  | submitted (request : Request) (waiter : Option Waiter) :
      Performs jobs (.submit request waiter) (jobs.submit request waiter).jobs none
  | taken {ticket : Ticket} {rest : List Ticket} (ready : jobs.phase = .ready)
      (free : jobs.inFlight = none) (split : jobs.queue = ticket :: rest) :
      Performs jobs .drive { jobs with
        phase := .busy
        queue := rest
        inFlight := some ticket } (some ticket.job)
  | idle (nothing : jobs.drive = none) : Performs jobs .drive jobs none
  | completed {id : Nat} {outcome : Outcome} {done : Completion}
      (answered : jobs.complete id outcome = some done) :
      Performs jobs (.complete id outcome) done.jobs none
  | stale {id : Nat} {outcome : Outcome} (other : jobs.inFlightId ≠ some id) :
      Performs jobs (.complete id outcome) jobs none
  | readied (waiting : jobs.phase = .notReady) :
      Performs jobs .markReady { jobs with phase := .ready } none
  | ignored (known : jobs.phase ≠ .notReady) : Performs jobs .markReady jobs none
  | exited : Performs jobs .exit (jobs.abandon .exited).jobs none
  | restarted : Performs jobs .restart (jobs.abandon .notReady).jobs none

theorem perform_cases (jobs : JobQueue) (operation : Operation) :
    Performs jobs operation (jobs.perform operation).1 (jobs.perform operation).2 := by
  cases operation with
  | submit request waiter => exact .submitted request waiter
  | drive =>
      cases driven : jobs.drive with
      | none =>
          rw [perform_drive_of_rest ((jobs.drive_eq_none_iff).mp driven)]
          exact .idle driven
      | some taken =>
          rcases (jobs.drive_eq_some_iff taken.2 taken.1).mp driven with
            ⟨ticket, rest, ready, free, split, _⟩
          rw [perform_drive_of_ready ready free split]
          exact .taken ready free split
  | complete id outcome =>
      cases completed : jobs.complete id outcome with
      | none =>
          simp only [perform, completed]
          exact .stale ((jobs.complete_eq_none_iff id outcome).mp completed)
      | some done =>
          simp only [perform, completed]
          exact .completed completed
  | markReady =>
      simp only [perform, markReady]
      by_cases waiting : jobs.phase = .notReady
      · simp only [if_pos waiting]
        exact .readied waiting
      · simp only [if_neg waiting]
        exact .ignored waiting
  | exit => exact .exited
  | restart => exact .restarted

theorem Valid.performs {jobs next : JobQueue} (valid : jobs.Valid) {operation : Operation}
    {taken : Option Job} (performs : Performs jobs operation next taken) : next.Valid := by
  cases performs with
  | submitted request waiter => exact valid.submit request waiter
  | taken ready free split =>
      exact valid.drive ((jobs.drive_eq_some_iff _ _).mpr ⟨_, _, ready, free, split, rfl, rfl⟩)
  | completed answered => exact valid.complete answered
  | readied waiting =>
      have marked := valid.markReady
      rw [JobQueue.markReady, if_pos waiting] at marked
      exact marked
  | exited => exact valid.abandon .exited (by decide)
  | restarted => exact valid.abandon .notReady (by decide)
  | _ => exact valid

/-- Every history leaves a valid queue. -/
theorem Valid.performAll {jobs : JobQueue} (valid : jobs.Valid) (history : List Operation) :
    (jobs.performAll history).1.Valid := by
  induction history generalizing jobs with
  | nil => exact valid
  | cons operation rest inductionHypothesis =>
      exact inductionHypothesis (valid.performs (jobs.perform_cases operation))

/-- A job that is taken was the first one that waited.  Apart from that only a
submission or the loss of the compiler changes which jobs wait. -/
theorem Performs.queue_eq {jobs next : JobQueue} {operation : Operation} {taken : Option Job}
    (performs : Performs jobs operation next taken) (silent : operation.request? = none)
    (lasting : operation.abandons = false) :
    taken.toList ++ next.queue.map (·.job) = jobs.queue.map (·.job) ∧
      next.nextId = jobs.nextId := by
  cases performs with
  | submitted => cases silent
  | taken ready free split =>
      rw [split]
      exact ⟨rfl, rfl⟩
  | completed answered =>
      rcases (jobs.complete_eq_some_iff _ _ _).mp answered with ⟨ticket, _, _, rfl⟩
      exact ⟨rfl, rfl⟩
  | exited => cases lasting
  | restarted => cases lasting
  | _ => exact ⟨rfl, rfl⟩

/-- Only the loss of the compiler makes the queue refuse requests. -/
theorem Performs.running {jobs next : JobQueue} {operation : Operation} {taken : Option Job}
    (performs : Performs jobs operation next taken) (running : jobs.phase ≠ .exited)
    (lasting : operation.abandons = false) : next.phase ≠ .exited := by
  cases performs with
  | submitted request waiter => exact (jobs.submit_frame request waiter).1 ▸ running
  | taken => exact (nomatch ·)
  | completed answered =>
      rcases (jobs.complete_eq_some_iff _ _ _).mp answered with ⟨ticket, _, _, rfl⟩
      by_cases busy : jobs.phase = .busy
      · simp only [if_pos busy]
        exact (nomatch ·)
      · simp only [if_neg busy]
        exact running
  | readied => exact (nomatch ·)
  | exited => cases lasting
  | restarted => cases lasting
  | _ => exact running

end JobQueue
end CompilerRelay
