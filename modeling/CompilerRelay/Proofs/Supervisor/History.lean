import CompilerRelay.Proofs.Supervisor.Change
import CompilerRelay.Proofs.Supervisor.Step

/-!
# Invariants of runs

A step of the supervisor has two halves, so an invariant of runs is a
statement about three things: the events that were handled, the events after
which a job may have been handed over, and the desk.  The two lists are the
same between steps, and differ by the current event in the middle of one.
`Preserved` collects what has to be shown of such a statement.  It then holds
between any two steps and, which is what statements about handovers need, in
the middle of every step.

`Moment.Accepts` says when a job comes into being.  Identifiers are given out
in increasing order, so a job is accepted at one moment only.
-/

namespace CompilerRelay

open Effect

namespace Moment

theorem initial_desk_valid : Supervisor.initial.desk.Valid where
  jobs := JobQueue.initial_valid
  held := by
    intro generation held
    cases held
  flying := by
    intro flying
    cases flying
  ended := by
    intro ended
    cases ended

/-- Every run leaves a valid desk. -/
theorem run_desk_valid (events : List (Verdict × Event)) :
    (Supervisor.initial.run events).1.desk.Valid := by
  refine induction (P := fun _ s => s.desk.Valid) initial_desk_valid ?_ events
  intro moment valid
  rcases moment.state.step_handles_pumps valid moment.verdict moment.event with
    ⟨told, lost, handled, pumped, _⟩
  exact (valid.handles handled).pumps pumped

theorem desk_valid (moment : Moment) : moment.state.desk.Valid :=
  run_desk_valid moment.before

/-- The supervisor after the event was handled and before a job is handed over. -/
def middle (moment : Moment) : Supervisor :=
  moment.state.middle moment.verdict moment.event

/-- How the two halves of a step go. -/
theorem halves (moment : Moment) : ∃ told lost,
    Desk.Handles moment.verdict moment.state.desk moment.event moment.middle.desk
      (launches moment.effects) told ∧
    Desk.Pumps moment.verdict moment.middle.desk moment.next.desk (handovers moment.effects) lost ∧
    resolutions moment.effects = told ++ lost :=
  moment.state.step_handles_pumps moment.desk_valid moment.verdict moment.event

theorem handovers_through (moment : Moment) :
    handovers (Supervisor.initial.run moment.through).2 =
      handovers (Supervisor.initial.run moment.before).2 ++ handovers moment.effects := by
  rw [run_through, handovers_append]

theorem In.mem {moment : Moment} {events : List (Verdict × Event)} (inside : moment.In events) :
    (moment.verdict, moment.event) ∈ events :=
  inside.subset (List.mem_append_right _ (List.mem_singleton_self _))

/-- A statement that holds at the beginning of every run and that both halves
of a step keep.  It speaks of the events handled, of the events after which a
job was handed over, and of the desk. -/
structure Preserved (I : List (Verdict × Event) → List (Verdict × Event) → Desk → Prop) :
    Prop where
  start : I [] [] Supervisor.initial.desk
  handles : ∀ (moment : Moment) (event : Event) (between : Desk) (begun : List Launch)
    (told : List Resolution), moment.event = event → launches moment.effects = begun →
      Desk.Handles moment.verdict moment.state.desk event between begun told →
        I moment.before moment.before moment.state.desk → I moment.through moment.before between
  pumps : ∀ (moment : Moment) (between after : Desk) (handed : List Handover)
    (lost : List Resolution), between.Valid → handovers moment.effects = handed →
      Desk.Pumps moment.verdict between after handed lost →
        I moment.through moment.before between → I moment.through moment.through after

namespace Preserved

variable {I : List (Verdict × Event) → List (Verdict × Event) → Desk → Prop}

/-- Two invariants hold of one desk. -/
theorem and {J : List (Verdict × Event) → List (Verdict × Event) → Desk → Prop}
    (first : Preserved I) (second : Preserved J) :
    Preserved fun heard done desk => I heard done desk ∧ J heard done desk where
  start := ⟨first.start, second.start⟩
  handles := by
    intro moment event between begun told happened launched handled both
    exact ⟨first.handles _ _ _ _ _ happened launched handled both.1,
      second.handles _ _ _ _ _ happened launched handled both.2⟩
  pumps := by
    intro moment between after given lost valid offered pumped both
    exact ⟨first.pumps _ _ _ _ _ valid offered pumped both.1,
      second.pumps _ _ _ _ _ valid offered pumped both.2⟩

/-- Between two steps every event was handled to its end. -/
theorem holds (preserved : Preserved I) (events : List (Verdict × Event)) :
    I events events (Supervisor.initial.run events).1.desk := by
  refine induction (P := fun events s => I events events s.desk) preserved.start ?_ events
  intro moment before
  rcases moment.halves with ⟨told, lost, handled, pumped, _⟩
  have middle := preserved.handles moment _ _ _ _ rfl rfl handled before
  exact preserved.pumps moment _ _ _ _ (moment.desk_valid.handles handled) rfl pumped middle

theorem state (preserved : Preserved I) (moment : Moment) :
    I moment.before moment.before moment.state.desk :=
  preserved.holds moment.before

/-- In the middle of a step the event was handled, but no job handed over. -/
theorem middle (preserved : Preserved I) (moment : Moment) :
    I moment.through moment.before moment.middle.desk := by
  rcases moment.halves with ⟨told, lost, handled, pumped, _⟩
  exact preserved.handles moment _ _ _ _ rfl rfl handled (preserved.state moment)

/-- In the middle of a step in which a job is handed over, the job is the first
one of the queue. -/
theorem offered (preserved : Preserved I) {moment : Moment} {handover : Handover}
    (member : handover ∈ handovers moment.effects) :
    ∃ desk ticket rest, I moment.through moment.before desk ∧ desk.Valid ∧
      desk.jobs.phase = .ready ∧ desk.jobs.inFlight = none ∧
      desk.jobs.queue = ticket :: rest ∧ desk.generation = handover.generation ∧
      ticket.job = handover.job ∧ moment.next.generation = handover.generation ∧
        1 ≤ handover.generation := by
  rcases moment.halves with ⟨told, lost, handled, pumped, _⟩
  have middle := preserved.middle moment
  have valid := moment.desk_valid.handles handled
  rcases pumped.offered member with ⟨ticket, rest, ready, free, split, held, same⟩
  have current := valid.held _ held
  have after : moment.next.generation = moment.middle.desk.generation := pumped.generation_eq
  exact ⟨moment.middle.desk, ticket, rest, middle, valid, ready, free, split, current.1.symm, same,
    after.trans current.1.symm, current.2⟩

end Preserved

/-! ## Generations -/

/-- A launch begins the next generation; nothing else changes the generation. -/
theorem next_generation (moment : Moment) :
    moment.next.generation = moment.state.generation + (launches moment.effects).length ∧
      ∀ launch ∈ launches moment.effects, launch.generation = moment.state.generation + 1 := by
  rcases moment.halves with ⟨told, lost, handled, pumped, _⟩
  have generation := handled.generation_eq
  exact ⟨pumped.generation_eq.trans generation.1, generation.2⟩

/-- What no step decreases, no run decreases. -/
theorem monotone_of_step (measure : Supervisor → Nat)
    (step : ∀ moment : Moment, measure moment.state ≤ measure moment.next)
    {early : Moment} {events : List (Verdict × Event)} (inside : early.In events) :
    measure early.next ≤ measure (Supervisor.initial.run events).1 := by
  refine induction (P := fun events s => early.In events → measure early.next ≤ measure s)
    ?_ ?_ events inside
  · intro inside
    exact absurd inside early.not_in_nil
  · intro last inductionHypothesis inside
    rcases (in_through_iff early last).mp inside with earlier | same
    · exact Nat.le_trans (inductionHypothesis earlier) (step last)
    · exact same ▸ Nat.le_refl _

theorem Precedes.generation_le {first second : Moment} (order : first.Precedes second) :
    first.next.generation ≤ second.state.generation := by
  refine monotone_of_step (·.generation) ?_ order
  intro moment
  have generation := moment.next_generation.1
  omega

/-! ## Accepted jobs -/

/-- The event submits a request and is not refused; the ticket is what waits.  A
moment accepts one ticket at most, and no ticket is accepted twice in a run. -/
def Accepts (moment : Moment) (ticket : Ticket) : Prop :=
  moment.state.halted = false ∧
    moment.event = .submit ticket.job.request ticket.waiter ∧
      (moment.state.jobs.submit ticket.job.request ticket.waiter).id = some ticket.job.id

/-- A request is accepted unless the compiler is gone, and its job gets the
next identifier. -/
theorem accepts_iff (moment : Moment) (ticket : Ticket) :
    moment.Accepts ticket ↔ moment.state.jobs.phase ≠ .exited ∧
      moment.event = .submit ticket.job.request ticket.waiter ∧
        ticket.job.id = moment.state.jobs.nextId := by
  have submits := moment.state.jobs.submit_cases ticket.job.request ticket.waiter
  unfold Accepts
  generalize moment.state.jobs.submit ticket.job.request ticket.waiter = submission at submits
  have running : moment.state.jobs.phase ≠ .exited → moment.state.halted = false := by
    intro present
    exact Bool.eq_false_iff.mpr fun ended => present (moment.desk_valid.ended ended)
  cases submits with
  | refused gone =>
      constructor
      · rintro ⟨_, _, impossible⟩
        cases impossible
      · rintro ⟨present, _, _⟩
        exact absurd gone present
  | replaced present =>
      constructor
      · rintro ⟨_, submitted, same⟩
        exact ⟨present, submitted, (Option.some.inj same).symm⟩
      · rintro ⟨_, submitted, same⟩
        exact ⟨running present, submitted, congrArg some same.symm⟩
  | appended present =>
      constructor
      · rintro ⟨_, submitted, same⟩
        exact ⟨present, submitted, (Option.some.inj same).symm⟩
      · rintro ⟨_, submitted, same⟩
        exact ⟨running present, submitted, congrArg some same.symm⟩

theorem Accepts.ticket_eq {moment : Moment} {ticket : Ticket} (accepted : moment.Accepts ticket) :
    moment.state.jobs.ticket ticket.job.request ticket.waiter = ticket := by
  have id := ((accepts_iff moment ticket).mp accepted).2.2
  rw [JobQueue.ticket, ← id]

/-- One submission makes one ticket. -/
theorem Accepts.ticket_unique {moment : Moment} {first second : Ticket}
    (former : moment.Accepts first) (latter : moment.Accepts second) : first = second := by
  have submitted := former.2.1.symm.trans latter.2.1
  cases Event.submit.inj submitted with
  | intro requests waiters => rw [← former.ticket_eq, ← latter.ticket_eq, requests, waiters]

theorem next_nextId_le (moment : Moment) :
    moment.state.jobs.nextId ≤ moment.next.jobs.nextId := by
  rcases moment.halves with ⟨told, lost, handled, pumped, _⟩
  have same : moment.next.jobs.nextId = moment.middle.desk.jobs.nextId := pumped.nextId_eq
  rw [same]
  exact handled.nextId_le

theorem Accepts.next_nextId {moment : Moment} {ticket : Ticket}
    (accepted : moment.Accepts ticket) : moment.next.jobs.nextId = ticket.job.id + 1 := by
  rcases moment.halves with ⟨told, lost, handled, pumped, _⟩
  rcases (accepts_iff moment ticket).mp accepted with ⟨present, submitted, id⟩
  have same : moment.next.jobs.nextId = moment.middle.desk.jobs.nextId := pumped.nextId_eq
  rw [submitted] at handled
  rw [same, handled.submit_eq.1, id]
  exact moment.state.jobs.submit_nextId _ _ present

/-- Jobs that are accepted later have larger identifiers. -/
theorem Precedes.id_lt {first second : Moment} (order : first.Precedes second)
    {early late : Ticket} (left : first.Accepts early) (right : second.Accepts late) :
    early.job.id < late.job.id := by
  have grows := monotone_of_step (·.jobs.nextId) next_nextId_le order
  have before : first.next.jobs.nextId = early.job.id + 1 := left.next_nextId
  have after := ((accepts_iff second late).mp right).2.2
  change first.next.jobs.nextId ≤ second.state.jobs.nextId at grows
  omega

theorem Precedes.ticket_ne {first second : Moment} (order : first.Precedes second)
    {early late : Ticket} (left : first.Accepts early) (right : second.Accepts late) :
    late ≠ early := by
  intro same
  have younger := order.id_lt left right
  rw [same] at younger
  omega

/-- An identifier belongs to one submission. -/
theorem Accepts.unique {first second : Moment} {events : List (Verdict × Event)}
    (left : first.In events) (right : second.In events) {early late : Ticket}
    (former : first.Accepts early) (latter : second.Accepts late)
    (same : early.job.id = late.job.id) : first = second := by
  rcases trichotomy left right with earlier | equal | later
  · have order := earlier.id_lt former latter
    omega
  · exact equal
  · have order := later.id_lt latter former
    omega

end Moment
end CompilerRelay
