import CompilerRelay.Proofs.Supervisor.Inert

/-!
# No job waits without a reason

At most one job is handed over after each event, and that is enough: whenever
an event has been handled to its end, a queued job waits for the announcement
of the compiler or for the end of another job, and for nothing else.  Those who
ask how things stand are told of no other state either.

That the supervisor rests between two events (`Desk.Rests`) says that nothing
was left behind.  The other half is that it goes on: `Moment.Frees` gathers the
events that end the waiting, and in the step of such an event the first queued
job leaves the queue.  The compiler takes it, or is given up with all its jobs.
-/

namespace CompilerRelay

open Effect

/-- A desk that rests is not ready with a job that waits. -/
theorem Desk.Rests.not_ready {desk : Desk} (rests : desk.Rests) (valid : desk.Valid) :
    ¬ (desk.jobs.phase = .ready ∧ desk.jobs.queue ≠ []) := by
  rintro ⟨ready, waiting⟩
  refine rests ⟨ready, ?_, waiting⟩
  cases flying : desk.jobs.inFlight with
  | none => rfl
  | some ticket =>
      have busy := valid.jobs.busy.mpr (by rw [flying]; rfl)
      rw [ready] at busy
      cases busy

/-- What a queued job waits for: the announcement of the compiler, or the end
of another job. -/
theorem Desk.Rests.waits {desk : Desk} (rests : desk.Rests) (valid : desk.Valid) {ticket : Ticket}
    (queued : ticket ∈ desk.jobs.queue) : desk.jobs.phase = .notReady ∨
      ∃ other, desk.jobs.inFlight = some other ∧ other.job.id ≠ ticket.job.id := by
  have waiting : desk.jobs.queue ≠ [] := List.ne_nil_of_mem queued
  cases phase : desk.jobs.phase with
  | notReady => exact Or.inl rfl
  | ready => exact absurd ⟨phase, waiting⟩ (rests.not_ready valid)
  | exited => exact absurd (valid.jobs.gone phase) waiting
  | busy =>
      rcases Option.isSome_iff_exists.mp (valid.jobs.busy.mp phase) with ⟨other, flying⟩
      refine Or.inr ⟨other, flying, fun same => ?_⟩
      have distinct := valid.jobs.distinct
      rw [JobQueue.outstanding, flying, Option.toList_some, List.singleton_append, List.map_cons,
        List.nodup_cons] at distinct
      exact distinct.1 (List.mem_map.mpr ⟨ticket, queued, same.symm⟩)

namespace Moment

/-- The event ends the waiting: the compiler announces itself while that is
awaited, or ends the job in flight. -/
def Frees (moment : Moment) : Prop :=
  moment.state.halted = false ∧
    ∃ said, moment.event = .compiler moment.state.generation said ∧
      (said = .ready ∧ moment.state.jobs.phase = .notReady ∨
        ∃ ticket outcome, moment.state.jobs.inFlight = some ticket ∧
          said.outcomeFor? ticket.job.id = some outcome)

/-- The first queued job leaves the queue: the compiler takes it, or there is
none that does and every job is given up. -/
inductive Resumes (moment : Moment) (ticket : Ticket) (rest : List Ticket) : Prop
  | taken {generation : Nat} (given : handovers moment.effects = [⟨generation, ticket.job, true⟩])
      (flying : moment.next.jobs.inFlight = some ticket) (queue : moment.next.jobs.queue = rest)
  | failed (refuses : moment.middle.channel = none ∨
        ∃ cause, moment.verdict.dispatch ticket.job = some cause)
      (gone : moment.next.jobs.phase = .exited) (nothing : moment.next.jobs.outstanding = [])

end Moment

namespace Desk

variable {verdict : Verdict} {desk after : Desk}

/-- The compiler is ready and nothing is in flight, and the queue is as before. -/
theorem Handles.freed {event : Event} {said : CompilerEvent} {begun : List Launch}
    {told : List Resolution} (handled : Handles verdict desk event after begun told)
    (valid : desk.Valid) (running : desk.halted = false)
    (spoke : event = .compiler desk.generation said)
    (frees : said = .ready ∧ desk.jobs.phase = .notReady ∨
      ∃ ticket outcome, desk.jobs.inFlight = some ticket ∧
        said.outcomeFor? ticket.job.id = some outcome) :
    after.jobs.phase = .ready ∧ after.jobs.inFlight = none ∧
      after.jobs.queue = desk.jobs.queue := by
  cases handled with
  | ignored ignores =>
      subst spoke
      rcases ignores with ⟨ended, _⟩ | other | ⟨_, known, silent⟩
      · rw [running] at ended
        cases ended
      · exact absurd rfl other
      · rcases frees with ⟨ready, waiting⟩ | ⟨ticket, outcome, flying, settles⟩
        · exact absurd waiting (known ready)
        · rw [silent ticket flying] at settles
          cases settles
  | launched => cases spoke
  | lost _ loss =>
      cases loss with
      | exited =>
          cases spoke
          rcases frees with ⟨impossible, _⟩ | ⟨_, _, _, settles⟩
          · cases impossible
          · cases settles
      | _ => cases spoke
  | submitted => cases spoke
  | readied _ waiting =>
      refine ⟨rfl, ?_, rfl⟩
      cases flying : desk.jobs.inFlight with
      | none => rfl
      | some ticket =>
          have busy := valid.jobs.busy.mpr (by rw [flying]; rfl)
          rw [waiting] at busy
          cases busy
  | concluded _ flying =>
      have busy := valid.jobs.busy.mpr (by rw [flying]; rfl)
      exact ⟨if_pos busy, rfl, rfl⟩

/-- At most one job is handed over. -/
theorem Pumps.length_le {handed : List Handover} {lost : List Resolution}
    (pumped : Pumps verdict desk after handed lost) : handed.length ≤ 1 := by
  cases pumped with
  | idle => exact Nat.zero_le 1
  | taken => exact Nat.le_refl 1
  | failed =>
      cases desk.channel with
      | none => exact Nat.zero_le 1
      | some generation => exact Nat.le_refl 1

end Desk

namespace Moment

theorem resumes_of_frees {moment : Moment} (frees : moment.Frees) {ticket : Ticket}
    {rest : List Ticket} (split : moment.state.jobs.queue = ticket :: rest) :
    moment.Resumes ticket rest := by
  rcases frees with ⟨running, said, spoke, frees⟩
  rcases moment.halves with ⟨told, lost, handled, pumped, _⟩
  rcases handled.freed moment.desk_valid running spoke frees with ⟨ready, free, queue⟩
  have waiting : moment.middle.desk.jobs.queue = ticket :: rest := queue.trans split
  generalize offered : handovers moment.effects = handed at pumped
  generalize next : moment.next.desk = after at pumped
  have jobs : moment.next.jobs = after.jobs := congrArg Desk.jobs next
  cases pumped with
  | idle nothing => exact absurd ⟨ready, free, waiting ▸ List.cons_ne_nil _ _⟩ nothing
  | taken _ _ split' held accepts =>
      rcases List.cons.inj (split'.symm.trans waiting) with ⟨rfl, rfl⟩
      exact .taken offered (congrArg JobQueue.inFlight jobs) (congrArg JobQueue.queue jobs)
  | failed _ _ split' refuses =>
      rcases List.cons.inj (split'.symm.trans waiting) with ⟨rfl, rfl⟩
      exact .failed refuses (congrArg JobQueue.phase jobs) (congrArg JobQueue.outstanding jobs)

/-- Who asks is told how things stand, and nothing else happens. -/
theorem effects_of_status {moment : Moment} {waiter : Waiter}
    (asked : moment.event = .status waiter) (running : moment.state.halted = false) :
    moment.effects = [.reported waiter (some moment.state.status)] := by
  have continues : Event.status waiter ≠ .stop := Event.noConfusion
  rw [effects, asked, moment.state.step_of_ne_stop running moment.verdict continues]
  simp only [Supervisor.handle]
  rw [moment.state.pump_of_rests (Supervisor.run_rests moment.before) moment.verdict]
  rfl

end Moment

/-- Jobs wait in a run only where they have to.  The laws are about the moments
between two events, the only ones at which anybody can look. -/
structure WorkConserving (events : List (Verdict × Event)) : Prop where
  /-- Between two events the queue is not ready while a job waits. -/
  rests : let jobs := (Supervisor.initial.run events).1.jobs
    ¬ (jobs.phase = .ready ∧ jobs.queue ≠ [])
  /-- A job waits for the announcement of the compiler or the end of another
  job. -/
  waits : let jobs := (Supervisor.initial.run events).1.jobs
    ∀ ticket ∈ jobs.queue, jobs.phase = .notReady ∨
      ∃ other, jobs.inFlight = some other ∧ other.job.id ≠ ticket.job.id
  /-- Who asks is told of a state in which no job waits otherwise. -/
  answers : ∀ (moment : Moment) (waiter : Waiter), moment.In events →
    moment.event = .status waiter → moment.state.halted = false →
      ∃ status, moment.effects = [.reported waiter (some status)] ∧
        status = moment.state.status ∧ ¬ (status.phase = .ready ∧ 0 < status.pending) ∧
          (0 < status.pending → status.phase = .notReady ∨ status.inFlight.isSome = true)
  /-- In one step one job is handed over at most. -/
  single : ∀ moment : Moment, moment.In events → (handovers moment.effects).length ≤ 1
  /-- To hand over once more without a further event would change nothing. -/
  settled : ∀ verdict, (Supervisor.initial.run events).1.pump verdict =
    ((Supervisor.initial.run events).1, [])
  /-- The event that ends the waiting is the one in which the first queued job
  leaves the queue. -/
  resumes : ∀ moment : Moment, moment.In events → moment.Frees →
    ∀ ticket rest, moment.state.jobs.queue = ticket :: rest → moment.Resumes ticket rest

/-- No job is left behind in any run. -/
theorem work_conserving (events : List (Verdict × Event)) : WorkConserving events where
  rests := (Supervisor.run_rests events).not_ready (Moment.run_desk_valid events)
  waits _ queued := (Supervisor.run_rests events).waits (Moment.run_desk_valid events) queued
  answers := by
    intro moment waiter inside asked running
    have rests := Supervisor.run_rests moment.before
    refine ⟨_, moment.effects_of_status asked running, rfl, ?_, ?_⟩
    · rintro ⟨ready, pending⟩
      exact rests.not_ready moment.desk_valid ⟨ready, List.ne_nil_of_length_pos pending⟩
    · intro pending
      rcases List.exists_mem_of_length_pos pending with ⟨ticket, queued⟩
      rcases rests.waits moment.desk_valid queued with waiting | ⟨other, flying, _⟩
      · exact Or.inl waiting
      · refine Or.inr ?_
        change (moment.state.jobs.inFlight.map _).isSome = true
        rw [show moment.state.jobs.inFlight = some other from flying]
        rfl
  single := by
    intro moment inside
    rcases moment.halves with ⟨told, lost, handled, pumped, _⟩
    exact pumped.length_le
  settled verdict :=
    (Supervisor.initial.run events).1.pump_of_rests (Supervisor.run_rests events) verdict
  resumes _ _ frees _ _ split := Moment.resumes_of_frees frees split

/-- Two questions wait for the compiler to announce itself, and the second one
waits for the end of the first. -/
theorem work_conserving_questions :
    let willing : Verdict := ⟨fun _ => none, fun _ => none⟩
    let ask (name : String) : Event := .submit (.hover ⟨⟨name⟩, ⟨0, 0⟩⟩) none
    let events : List (Verdict × Event) := [(willing, .launch {}), (willing, ask "a"),
      (willing, ask "b"), (willing, .compiler 1 .ready)]
    let answered : Moment := ⟨events, willing, .compiler 1 (.response 1 (.ok .null))⟩
    WorkConserving answered.through ∧ answered.Frees ∧
      answered.state.jobs.queue.map (·.job.id) = [2] ∧
        answered.next.jobs.inFlightId = some 2 ∧ answered.next.jobs.queue = [] :=
  ⟨work_conserving _, ⟨rfl, _, rfl, Or.inr ⟨_, _, rfl, rfl⟩⟩, rfl, rfl, rfl⟩

end CompilerRelay
