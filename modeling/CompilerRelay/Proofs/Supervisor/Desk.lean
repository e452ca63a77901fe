import CompilerRelay.Proofs.JobQueue
import CompilerRelay.Proofs.Supervisor.Moment

/-!
# The desk: jobs and compilers

The `Desk` of a supervisor is the part of its state that decides which job
goes to which compiler: the job queue, the channel, the generation, and
whether the supervisor still runs.  Nothing else that the supervisor holds has
an influence on it, so statements about jobs need not speak of the ledger.

An event is first handled (`Handles`), and then at most one job is handed over
(`Pumps`).  All ways in which every outstanding job is lost at once are
gathered in `Loss`.  The end is handled like the other losses, and after it
the desk ignores everything but submissions, which it refuses.  These
relations are definitions of their own; that the supervisor follows them is
proved where its steps are opened.
-/

namespace CompilerRelay

/-- The jobs, the compiler they are handed to, and whether anybody works.  What
a step does to them depends on nothing else of the supervisor, so its laws are
proved without ledger, labels and log. -/
structure Desk where
  jobs : JobQueue
  channel : Option Nat
  generation : Nat
  halted : Bool

/-- The outcome that something a compiler did gives to the job in flight. -/
def CompilerEvent.outcomeFor? (id : Nat) : CompilerEvent → Option Outcome
  | response other outcome => if id = other then some outcome else none
  | unmatched reason => some (.error (.garbled reason))
  | _ => none

/-- Only an answer to the job and what cannot be read end it. -/
theorem CompilerEvent.cases_of_outcomeFor? {id : Nat} {event : CompilerEvent} {outcome : Outcome}
    (settles : event.outcomeFor? id = some outcome) :
    event = .response id outcome ∨
      ∃ reason, event = .unmatched reason ∧ outcome = .error (.garbled reason) := by
  cases event with
  | response other answer =>
      by_cases same : id = other
      · rw [outcomeFor?, if_pos same] at settles
        cases settles
        exact Or.inl (same ▸ rfl)
      · rw [outcomeFor?, if_neg same] at settles
        cases settles
  | unmatched reason =>
      cases settles
      exact Or.inr ⟨reason, rfl, rfl⟩
  | _ => cases settles

namespace JobQueue

/-- What is told when every outstanding job is given up. -/
def losses (jobs : JobQueue) : List Resolution :=
  jobs.outstanding.flatMap (·.resolve (.error .unavailable))

@[simp] theorem resolved_exit (jobs : JobQueue) : jobs.exit.resolved = jobs.losses := rfl

@[simp] theorem resolved_restart (jobs : JobQueue) : jobs.restart.resolved = jobs.losses := rfl

def free (jobs : JobQueue) : JobQueue :=
  { jobs with phase := if jobs.phase = .busy then .ready else jobs.phase, inFlight := none }

end JobQueue

namespace Desk

/-- The event has no influence on jobs and compilers.  It may still be answered,
as a question about how things stand is, or be logged. -/
def Ignores (desk : Desk) (event : Event) : Prop :=
  desk.halted = true ∧ (∀ request waiter, event ≠ .submit request waiter) ∨
    match event with
    | .launch _ => desk.generation ≠ 0
    | .compiler generation event => generation ≠ desk.generation ∨
        (event ≠ .exited ∧ (event = .ready → desk.jobs.phase ≠ .notReady) ∧
          ∀ ticket, desk.jobs.inFlight = some ticket → event.outcomeFor? ticket.job.id = none)
    | .status _ => True
    | _ => False

/-- An event by which every outstanding job is lost, and the desk after it.  The
constructors differ in what becomes of the compiler, and none of them leaves a
job. -/
inductive Loss (verdict : Verdict) (desk : Desk) : Event → Desk → List Launch → Prop
  | launchFailed {settings : Settings} {cause : Failure} (first : desk.generation = 0)
      (failed : verdict.launch settings.compiler = some cause) :
      Loss verdict desk (.launch settings)
        ⟨(desk.jobs.abandon .exited).jobs, none, desk.generation + 1, desk.halted⟩
        [⟨desk.generation + 1, settings.compiler, false⟩]
  | restarted {settings : Settings} (started : verdict.launch settings.compiler = none) :
      Loss verdict desk (.restart settings)
        ⟨(desk.jobs.abandon .notReady).jobs, some (desk.generation + 1), desk.generation + 1,
          desk.halted⟩
        [⟨desk.generation + 1, settings.compiler, true⟩]
  | restartFailed {settings : Settings} {cause : Failure}
      (failed : verdict.launch settings.compiler = some cause) :
      Loss verdict desk (.restart settings)
        ⟨(desk.jobs.abandon .exited).jobs, none, desk.generation + 1, desk.halted⟩
        [⟨desk.generation + 1, settings.compiler, false⟩]
  | exited : Loss verdict desk (.compiler desk.generation .exited)
      ⟨(desk.jobs.abandon .exited).jobs, none, desk.generation, desk.halted⟩ []
  | stopped : Loss verdict desk .stop
      ⟨(desk.jobs.abandon .exited).jobs, none, desk.generation, true⟩ []

/-- How an event is handled, before any job is handed over.  The relation lists
the launches that are attempted and who is told what, and has one constructor
for each way in which the desk can change. -/
inductive Handles (verdict : Verdict) (desk : Desk) :
    Event → Desk → List Launch → List Resolution → Prop
  | ignored {event : Event} (ignores : desk.Ignores event) :
      Handles verdict desk event desk [] []
  | launched {settings : Settings} (running : desk.halted = false) (first : desk.generation = 0)
      (started : verdict.launch settings.compiler = none) :
      Handles verdict desk (.launch settings)
        ⟨desk.jobs, some (desk.generation + 1), desk.generation + 1, desk.halted⟩
        [⟨desk.generation + 1, settings.compiler, true⟩] []
  | lost {event : Event} {after : Desk} {launches : List Launch} (running : desk.halted = false)
      (loss : Loss verdict desk event after launches) :
      Handles verdict desk event after launches desk.jobs.losses
  | submitted (request : Request) (waiter : Option Waiter) :
      Handles verdict desk (.submit request waiter)
        { desk with jobs := (desk.jobs.submit request waiter).jobs } []
        (desk.jobs.submit request waiter).resolved
  | readied (running : desk.halted = false) (waiting : desk.jobs.phase = .notReady) :
      Handles verdict desk (.compiler desk.generation .ready)
        { desk with jobs := { desk.jobs with phase := .ready } } [] []
  | concluded {event : CompilerEvent} {ticket : Ticket} {outcome : Outcome}
      (running : desk.halted = false) (flying : desk.jobs.inFlight = some ticket)
      (settles : event.outcomeFor? ticket.job.id = some outcome) :
      Handles verdict desk (.compiler desk.generation event)
        { desk with jobs := desk.jobs.free } [] (ticket.resolve outcome)

/-- How the next job is handed over, if its time has come.  At most one job is,
and if the compiler does not take it, all jobs are lost. -/
inductive Pumps (verdict : Verdict) (desk : Desk) : Desk → List Handover → List Resolution → Prop
  | idle (nothing : ¬ (desk.jobs.phase = .ready ∧ desk.jobs.inFlight = none ∧
      desk.jobs.queue ≠ [])) : Pumps verdict desk desk [] []
  | taken {ticket : Ticket} {rest : List Ticket} {generation : Nat}
      (ready : desk.jobs.phase = .ready) (free : desk.jobs.inFlight = none)
      (split : desk.jobs.queue = ticket :: rest) (held : desk.channel = some generation)
      (accepts : verdict.dispatch ticket.job = none) :
      Pumps verdict desk { desk with jobs := { desk.jobs with
        phase := .busy
        queue := rest
        inFlight := some ticket } } [⟨generation, ticket.job, true⟩] []
  | failed {ticket : Ticket} {rest : List Ticket}
      (ready : desk.jobs.phase = .ready) (free : desk.jobs.inFlight = none)
      (split : desk.jobs.queue = ticket :: rest)
      (refuses : desk.channel = none ∨ ∃ cause, verdict.dispatch ticket.job = some cause) :
      Pumps verdict desk ⟨(desk.jobs.abandon .exited).jobs, none, desk.generation, desk.halted⟩
        (desk.channel.toList.map (⟨·, ticket.job, false⟩)) desk.jobs.losses

/-- What holds of the desk between any two events.  Within a step it holds as
well between its two halves, which is what the proofs about halves rely on. -/
structure Valid (desk : Desk) : Prop where
  jobs : desk.jobs.Valid
  /-- A compiler that is held is the one of the last launch. -/
  held : ∀ generation, desk.channel = some generation →
    generation = desk.generation ∧ 1 ≤ generation
  flying : desk.jobs.inFlight.isSome = true → desk.channel = some desk.generation
  ended : desk.halted = true → desk.jobs.phase = .exited

/-- A loss leaves no job behind, and no compiler that is ready. -/
theorem Loss.abandons {verdict : Verdict} {desk after : Desk} {event : Event}
    {launches : List Launch} (loss : Loss verdict desk event after launches) :
    ∃ phase, (phase = .exited ∨ phase = .notReady) ∧
      after.jobs = (desk.jobs.abandon phase).jobs := by
  cases loss with
  | restarted => exact ⟨.notReady, Or.inr rfl, rfl⟩
  | _ => exact ⟨.exited, Or.inl rfl, rfl⟩

/-- The compiler is gone after a loss, unless another one was started. -/
theorem Loss.exited_of_same {verdict : Verdict} {desk after : Desk} {event : Event}
    {launches : List Launch} (loss : Loss verdict desk event after launches)
    (same : after.generation = desk.generation) : after.jobs.phase = .exited := by
  cases loss with
  | restarted => exact absurd same (Nat.succ_ne_self _)
  | _ => rfl

namespace Valid

variable {verdict : Verdict} {desk : Desk} (valid : desk.Valid)

include valid

theorem channel_of_first (first : desk.generation = 0) : desk.channel = none := by
  cases held : desk.channel with
  | none => rfl
  | some generation =>
      have bounds := valid.held generation held
      omega

theorem inFlight_of_first (first : desk.generation = 0) : desk.jobs.inFlight = none := by
  cases flying : desk.jobs.inFlight with
  | none => rfl
  | some ticket =>
      have held := valid.flying (by rw [flying]; rfl)
      rw [valid.channel_of_first first] at held
      cases held

/-- Whatever else becomes of it, a desk without jobs and compiler is valid. -/
theorem abandoned (generation : Nat) (halted : Bool) :
    Desk.Valid ⟨(desk.jobs.abandon .exited).jobs, none, generation, halted⟩ where
  jobs := valid.jobs.abandon .exited (by decide)
  held := by
    intro generation held
    cases held
  flying := by
    intro flying
    cases flying
  ended := fun _ => rfl

theorem loss {event : Event} {after : Desk} {launches : List Launch}
    (lost : Loss verdict desk event after launches) (running : desk.halted = false) :
    after.Valid := by
  have notReady := valid.jobs.abandon .notReady (by decide)
  cases lost with
  | launchFailed => exact valid.abandoned (desk.generation + 1) desk.halted
  | restarted =>
      refine ⟨notReady, ?_, fun _ => rfl, ?_⟩
      · intro generation held
        have same := Option.some.inj held
        exact ⟨same.symm, by omega⟩
      · intro ended
        exact absurd (running.symm.trans ended) (nomatch ·)
  | restartFailed => exact valid.abandoned (desk.generation + 1) desk.halted
  | exited => exact valid.abandoned desk.generation desk.halted
  | stopped => exact valid.abandoned desk.generation true

theorem handles {event : Event} {next : Desk} {launches : List Launch} {told : List Resolution}
    (handled : Handles verdict desk event next launches told) : next.Valid := by
  cases handled with
  | ignored => exact valid
  | launched running first started =>
      refine ⟨valid.jobs, ?_, ?_, valid.ended⟩
      · intro generation held
        have same := Option.some.inj held
        exact ⟨same.symm, by omega⟩
      · intro _
        rfl
  | lost running loss => exact valid.loss loss running
  | submitted request waiter =>
      refine ⟨valid.jobs.submit request waiter, valid.held, ?_, ?_⟩
      · have submits := desk.jobs.submit_cases request waiter
        generalize desk.jobs.submit request waiter = submission at submits
        cases submits <;> exact valid.flying
      · intro ended
        have gone := valid.ended ended
        rw [desk.jobs.submit_of_exited gone]
        exact gone
  | readied running waiting =>
      have marked := valid.jobs.markReady
      rw [JobQueue.markReady, if_pos waiting] at marked
      refine ⟨marked, valid.held, valid.flying, ?_⟩
      intro ended
      exact absurd (running.symm.trans ended) (nomatch ·)
  | concluded running flying settles =>
      refine ⟨valid.jobs.complete ((desk.jobs.complete_eq_some_iff _ (.ok .null) _).mpr
        ⟨_, flying, rfl, rfl⟩), valid.held, (nomatch ·), ?_⟩
      intro ended
      exact absurd (running.symm.trans ended) (nomatch ·)

theorem pumps {next : Desk} {handed : List Handover} {lost : List Resolution}
    (pumped : Pumps verdict desk next handed lost) : next.Valid := by
  cases pumped with
  | idle => exact valid
  | taken ready free split held accepts =>
      have driven := (desk.jobs.drive_eq_some_iff _ _).mpr ⟨_, _, ready, free, split, rfl, rfl⟩
      refine ⟨valid.jobs.drive driven, valid.held, ?_, ?_⟩
      · intro _
        rw [held, (valid.held _ held).1]
      · intro ended
        have gone := valid.ended ended
        rw [ready] at gone
        cases gone
  | failed => exact valid.abandoned desk.generation desk.halted

end Valid
end Desk
end CompilerRelay
