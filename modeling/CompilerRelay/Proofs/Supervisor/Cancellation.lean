import CompilerRelay.Proofs.JobQueue.Waiterless
import CompilerRelay.Proofs.Supervisor.Telling

/-!
# Nobody is disturbed by a waiter that stops listening

A question may be given up while its job waits, while it is in flight, just
before it would be replaced, or while the compiler goes down.  Nothing is done
about that: the job goes on, and what it came to is told to nobody.

`undisturbed` says that everybody else is served as if nothing had happened,
for the queue by itself and for the supervisor around it.  Two things are needed
for it.  Waiters are told in the middle of a step and answer whether they were
there, so a step might go on in another way when they were not;
`Supervisor.stepping_eq` says that it does not.  And nothing may depend on there
being a waiter at all.  For this each operation of the supervisor is compared
with itself on the state without some of the waiters (`Omits`), and an operation
that, say, passed over jobs nobody waits for would fail the comparison.
-/

namespace CompilerRelay

namespace Effect

/-- The waiter that an effect is for. -/
def waiter? : Effect → Option Waiter
  | resolved resolution => some resolution.waiter
  | reported waiter _ => some waiter
  | _ => none

/-- The effects that are for none of these waiters. -/
def but (others : List Waiter) (effects : List Effect) : List Effect :=
  effects.filter (Inbox.spares waiter? others)

@[simp] theorem but_append (others : List Waiter) (first second : List Effect) :
    but others (first ++ second) = but others first ++ but others second :=
  List.filter_append first second

@[simp] theorem but_cons (others : List Waiter) (effect : Effect) (rest : List Effect) :
    but others (effect :: rest) = if Inbox.spares waiter? others effect = true
      then effect :: but others rest else but others rest :=
  List.filter_cons

@[simp] theorem but_resolved (others : List Waiter) (told : List Resolution) :
    but others ((toldBut others told).map resolved) = but others (told.map resolved) := by
  rw [but, but, List.filter_map, List.filter_map, toldBut, List.filter_filter]
  congr 2
  funext resolution
  exact Bool.and_self _

end Effect

open Effect

/-- The event, without its waiter if that is one of these. -/
def Event.without (others : List Waiter) : Event → Event
  | submit request waiter => .submit request (waiterBut others waiter)
  | other => other

namespace Supervisor

variable (others : List Waiter) (s : Supervisor) (verdict : Verdict)

/-- The supervisor, without these waiters. -/
def without : Supervisor :=
  { s with jobs := s.jobs.without others }

/-- Two operations come to the same, but that the second one is done without
these waiters. -/
structure Omits (done other : Supervisor × List Effect) : Prop where
  state : other.1 = done.1.without others
  effects : but others other.2 = but others done.2

variable {others s}

theorem Omits.append {done other : Supervisor × List Effect}
    (omits : Omits others done other) {first second : List Effect}
    (same : but others second = but others first) :
    Omits others (done.1, first ++ done.2) (other.1, second ++ other.2) where
  state := omits.state
  effects := by rw [but_append, but_append, same, omits.effects]

/-- What is the same for both operations is done before. -/
theorem Omits.after {done other : Supervisor × List Effect} (omits : Omits others done other)
    (first : List Effect) : Omits others (done.1, first ++ done.2) (other.1, first ++ other.2) :=
  omits.append rfl

variable (others s)

theorem status_without : (s.without others).status = s.status := by
  have pending : (s.without others).jobs.queue.length = s.jobs.queue.length :=
    List.length_map _
  simp only [status, pending]
  exact congrArg (fun id => Status.mk _ _ id _ _) (s.jobs.inFlightId_without others)

/-! ## Operations -/

theorem compilerGone_omits : Omits others s.compilerGone (s.without others).compilerGone := by
  simp only [compilerGone, without, JobQueue.exit, JobQueue.abandon_without]
  exact ⟨rfl, by simp⟩

theorem start_omits (settings : Settings) :
    Omits others (s.start verdict settings) ((s.without others).start verdict settings) := by
  unfold start
  cases verdict.launch settings.compiler with
  | none => exact ⟨rfl, rfl⟩
  | some cause => exact (compilerGone_omits others _).after _

theorem restart_omits (settings : Settings) :
    Omits others (s.restart verdict settings) ((s.without others).restart verdict settings) := by
  let reset := { s with channel := none, jobs := s.jobs.restart.jobs }
  have started := start_omits others reset.withdraw.1 verdict settings
  simp only [restart, without, JobQueue.restart, JobQueue.abandon_without]
  refine started.append ?_
  simp [withdraw]

theorem absorb_omits (job : Job) (outcome : Outcome) :
    Omits others (s.absorb job outcome) ((s.without others).absorb job outcome) := by
  cases outcome with
  | ok answer =>
      simp only [absorb]
      split
      · cases Report.ofAnswer answer <;> exact ⟨rfl, rfl⟩
      · exact ⟨rfl, rfl⟩
  | error error => cases error <;> exact ⟨rfl, rfl⟩

theorem conclude_omits (id : Nat) (outcome : Outcome) :
    Omits others (s.conclude id outcome) ((s.without others).conclude id outcome) := by
  simp only [conclude, without, JobQueue.complete_without]
  cases s.jobs.complete id outcome with
  | none => exact ⟨rfl, rfl⟩
  | some done =>
      exact (absorb_omits others { s with jobs := done.jobs } done.job outcome).append
        (but_resolved others done.resolved)

theorem onCompilerEvent_omits (event : CompilerEvent) :
    Omits others (s.onCompilerEvent event) ((s.without others).onCompilerEvent event) := by
  cases event with
  | ready =>
      have marked : (s.without others).jobs.markReady = _ := s.jobs.markReady_without others
      simp only [onCompilerEvent, marked]
      cases s.jobs.markReady.2 with
      | true => exact ⟨rfl, rfl⟩
      | false =>
          by_cases gone : s.jobs.phase = .exited
          · have same : (s.without others).jobs.phase = .exited := gone
            simp only [Bool.false_eq_true, if_false, if_pos gone, if_pos same]
            exact ⟨rfl, rfl⟩
          · have same : (s.without others).jobs.phase ≠ .exited := gone
            simp only [Bool.false_eq_true, if_false, if_neg gone, if_neg same]
            exact ⟨rfl, rfl⟩
  | response id outcome => exact conclude_omits others s id outcome
  | unmatched reason =>
      simp only [onCompilerEvent, without, JobQueue.inFlightId_without]
      cases s.jobs.inFlightId with
      | none => exact ⟨rfl, rfl⟩
      | some id => exact (conclude_omits others s id _).after [_]
  | notification notice => exact ⟨rfl, rfl⟩
  | exited =>
      have gone := compilerGone_omits others s
      refine ⟨gone.state, ?_⟩
      simp only [onCompilerEvent, but_append, gone.effects]
      rfl

theorem handle_omits (event : Event) : Omits others (s.handle verdict event)
    ((s.without others).handle verdict (event.without others)) := by
  cases event with
  | launch settings =>
      simp only [handle, Event.without]
      by_cases first : s.generation = 0
      · have same : (s.without others).generation = 0 := first
        rw [if_pos first, if_pos same]
        exact start_omits others s verdict settings
      · have same : (s.without others).generation ≠ 0 := first
        rw [if_neg first, if_neg same]
        exact ⟨rfl, rfl⟩
  | restart settings => exact restart_omits others s verdict settings
  | submit request waiter =>
      simp only [handle, Event.without, without, JobQueue.submit_without]
      exact ⟨rfl, but_resolved others _⟩
  | compiler generation event =>
      simp only [handle, Event.without]
      by_cases current : generation = s.generation
      · have same : generation = (s.without others).generation := current
        rw [if_pos current, if_pos same]
        exact onCompilerEvent_omits others s event
      · have same : generation ≠ (s.without others).generation := current
        rw [if_neg current, if_neg same]
        exact ⟨rfl, rfl⟩
  | status waiter =>
      simp only [handle, Event.without, status_without]
      exact ⟨rfl, rfl⟩
  | stop => exact ⟨rfl, rfl⟩

theorem pump_omits : Omits others (s.pump verdict) ((s.without others).pump verdict) := by
  have drives : (s.without others).jobs.drive = _ := s.jobs.drive_without others
  unfold pump
  rw [drives]
  cases s.jobs.drive with
  | none => exact ⟨rfl, rfl⟩
  | some next =>
      rcases next with ⟨job, jobs⟩
      have same : (s.without others).refusal? verdict job = s.refusal? verdict job := rfl
      simp only [Option.map_some, same]
      cases s.refusal? verdict job with
      | some cause => exact (compilerGone_omits others { s with jobs }).after _
      | none => cases job.kind.category <;> exact ⟨rfl, rfl⟩

theorem halt_omits : Omits others s.halt (s.without others).halt := by
  simp only [halt, without, JobQueue.exit, JobQueue.abandon_without]
  exact ⟨rfl, by simp⟩

theorem unhandled_but (event : Event) :
    but others (event.without others).unhandled = but others event.unhandled := by
  cases event with
  | submit request waiter =>
      cases waiter with
      | none => rfl
      | some waiter =>
          rw [Event.without]
          by_cases listed : waiter ∈ others
          · rw [waiterBut_of_mem listed]
            simp [Event.unhandled, but, Inbox.spares, waiter?, listed]
          · rw [waiterBut_of_not_mem listed]
  | _ => rfl

theorem step_omits (event : Event) : Omits others (s.step verdict event)
    ((s.without others).step verdict (event.without others)) := by
  cases ended : s.halted with
  | true =>
      rw [s.step_of_halted ended, (s.without others).step_of_halted ended]
      exact ⟨rfl, unhandled_but others event⟩
  | false =>
      by_cases last : event = .stop
      · subst last
        rw [s.step_stop ended]
        exact ((s.without others).step_stop ended verdict).symm ▸ halt_omits others s
      · have lasts : event.without others ≠ .stop := by
          cases event with
          | stop => exact absurd rfl last
          | _ => exact (nomatch ·)
        have handled := handle_omits others s verdict event
        have pumped := pump_omits others (s.handle verdict event).1 verdict
        rw [s.step_of_ne_stop ended verdict last,
          (s.without others).step_of_ne_stop ended verdict lasts, handled.state]
        exact pumped.append handled.effects

/-! ## Runs -/

/-- A supervisor tells the waiters of its jobs, and those who ask how things
stand, each in the middle of a step. -/
def reactor : Reactor Supervisor (Verdict × Event) Effect where
  step s entry := s.stepping entry.1 entry.2
  waiter? := Effect.waiter?

/-- A step and its effects. -/
def operate (s : Supervisor) (entry : Verdict × Event) : Supervisor × List Effect :=
  s.step entry.1 entry.2

/-- No step takes notice of whether those it tells were there. -/
theorem performs : reactor.Performs operate :=
  fun s entry => s.stepping_eq entry.1 entry.2

def eventWithout (entry : Verdict × Event) : Verdict × Event :=
  (entry.1, entry.2.without others)

theorem commutes_without :
    reactor.Commutes operate others (without others) (eventWithout others) :=
  fun s entry => ⟨(step_omits others s entry.1 entry.2).state,
    (step_omits others s entry.1 entry.2).effects⟩

end Supervisor

/-- Whoever stops listening, and whenever, the others are not disturbed, neither
by a queue of jobs nor by a supervisor. -/
theorem undisturbed :
    (∀ (jobs : JobQueue) (inbox : Inbox) (incidents : List (Incident JobQueue.Operation)),
      Undisturbed JobQueue.reactor JobQueue.without JobQueue.Operation.without
        jobs inbox incidents) ∧
    ∀ (s : Supervisor) (inbox : Inbox) (incidents : List (Incident (Verdict × Event))),
      Undisturbed Supervisor.reactor Supervisor.without Supervisor.eventWithout
        s inbox incidents :=
  ⟨Reactor.undisturbed_of_performs JobQueue.performs JobQueue.commutes_without,
    Reactor.undisturbed_of_performs Supervisor.performs Supervisor.commutes_without⟩

end CompilerRelay
