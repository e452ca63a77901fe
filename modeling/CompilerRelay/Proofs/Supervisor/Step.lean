import CompilerRelay.Proofs.Supervisor.Desk

/-!
# A step of the supervisor

`step_handles_pumps` says that every step handles its event and then hands
over at most one job, as the relations on desks describe it.  This is the only
place where the definition of the supervisor is opened for jobs and compilers.

Each operation of the supervisor has one lemma here, which reads from its
effects the launches, handovers and resolutions (`Reads`) and relates the
desks before and after it.  Effects that are none of these are `Quiet`.
-/

namespace CompilerRelay
namespace Supervisor

open Effect

/-- The part of the state that decides which job goes to which compiler. -/
def desk (s : Supervisor) : Desk :=
  ⟨s.jobs, s.channel, s.generation, s.halted⟩

/-- Of effects, what a step relation on desks speaks of.  Publications, notices
and log lines are left out, and so is the order among effects of different
kinds. -/
@[mk_iff] structure Reads (effects : List Effect) (begun : List Launch) (handed : List Handover)
    (told : List Resolution) : Prop where
  launches : launches effects = begun
  handovers : handovers effects = handed
  resolutions : resolutions effects = told

theorem Reads.append {early late : List Effect} {begun begun' : List Launch}
    {handed handed' : List Handover} {told told' : List Resolution}
    (first : Reads early begun handed told) (second : Reads late begun' handed' told') :
    Reads (early ++ late) (begun ++ begun') (handed ++ handed') (told ++ told') where
  launches := by rw [launches_append, first.launches, second.launches]
  handovers := by rw [handovers_append, first.handovers, second.handovers]
  resolutions := by rw [resolutions_append, first.resolutions, second.resolutions]

/-- Effects that concern no job and no launch. -/
def Quiet (effects : List Effect) : Prop :=
  Reads effects [] [] []

theorem reads_resolved (told : List Resolution) : Reads (told.map .resolved) [] [] told := by
  simp [reads_iff]

theorem quiet_published (publications : List Publication) : Quiet (publications.map .published) := by
  simp [Quiet, reads_iff]

theorem reads_compilerGone (s : Supervisor) : Reads s.compilerGone.2 [] [] s.jobs.losses := by
  simp [reads_iff, compilerGone]

theorem reads_start_of_started (s : Supervisor) (verdict : Verdict) (settings : Settings)
    (started : verdict.launch settings.compiler = none) :
    Reads (s.start verdict settings).2 [⟨s.generation + 1, settings.compiler, true⟩] [] [] ∧
      (s.start verdict settings).1.desk = { s.desk with
        channel := some (s.generation + 1)
        generation := s.generation + 1 } := by
  simp [reads_iff, start, started, desk]

theorem reads_start_of_failed (s : Supervisor) (verdict : Verdict) (settings : Settings)
    {cause : Failure} (failed : verdict.launch settings.compiler = some cause) :
    Reads (s.start verdict settings).2 [⟨s.generation + 1, settings.compiler, false⟩] []
        s.jobs.losses ∧
      (s.start verdict settings).1.desk =
        ⟨(s.jobs.abandon .exited).jobs, none, s.generation + 1, s.halted⟩ := by
  have gone := reads_compilerGone { s with
    generation := s.generation + 1
    closing := false
    source := settings.diagnosticsSource }
  simp only [start, failed]
  refine ⟨?_, rfl⟩
  simp [reads_iff, gone.launches, gone.handovers, gone.resolutions]

/-- The supervisor while it replaces its compiler: the old one is given up with
its jobs and its diagnostics, and no launch was attempted yet. -/
def emptied (s : Supervisor) : Supervisor :=
  { s with channel := none, jobs := s.jobs.restart.jobs }.withdraw.1

theorem reads_restart (s : Supervisor) (verdict : Verdict) (settings : Settings)
    {begun : List Launch} {told : List Resolution}
    (started : Reads (s.emptied.start verdict settings).2 begun [] told) :
    Reads (s.restart verdict settings).2 begun [] (s.jobs.losses ++ told) := by
  simp only [emptied, withdraw] at started
  simp [reads_iff, restart, withdraw, apply_ite launches, apply_ite handovers,
    apply_ite resolutions, started.launches, started.handovers, started.resolutions]

/-- The jobs are given up first, so a launch that fails finds none to lose. -/
theorem restart_handles (s : Supervisor) (running : s.halted = false) (verdict : Verdict)
    (settings : Settings) :
    ∃ begun told, Reads (s.restart verdict settings).2 begun [] told ∧
      Desk.Handles verdict s.desk (.restart settings) (s.restart verdict settings).1.desk
        begun told := by
  cases launched : verdict.launch settings.compiler with
  | none =>
      have begun := reads_start_of_started s.emptied verdict settings launched
      have told := s.reads_restart verdict settings begun.1
      have handles := @Desk.Handles.lost verdict s.desk _ _ _ running (.restarted launched)
      rw [List.append_nil] at told
      rw [show (s.restart verdict settings).1.desk = _ from begun.2]
      exact ⟨_, _, told, handles⟩
  | some cause =>
      have begun := reads_start_of_failed s.emptied verdict settings launched
      have told := s.reads_restart verdict settings begun.1
      have nothing : s.emptied.jobs.losses = [] := rfl
      have handles := @Desk.Handles.lost verdict s.desk _ _ _ running (.restartFailed launched)
      rw [nothing, List.append_nil] at told
      rw [show (s.restart verdict settings).1.desk = _ from begun.2]
      exact ⟨_, _, told, handles⟩

/-- What a job answered touches only the ledger and the editor. -/
theorem absorb_quiet (s : Supervisor) (job : Job) (outcome : Outcome) :
    Quiet (s.absorb job outcome).2 ∧ (s.absorb job outcome).1.desk = s.desk := by
  cases outcome with
  | ok answer =>
      by_cases reports : job.kind.reports = true
      · cases read : Report.ofAnswer answer with
        | ok report =>
            simp only [absorb, if_pos reports, read, publish]
            exact ⟨quiet_published _, rfl⟩
        | error error =>
            simp only [absorb, if_pos reports, read]
            exact ⟨⟨rfl, rfl, rfl⟩, trivial⟩
      · simp only [absorb, if_neg reports]
        exact ⟨⟨rfl, rfl, rfl⟩, trivial⟩
  | error error => cases error <;> exact ⟨⟨rfl, rfl, rfl⟩, rfl⟩

theorem conclude_of_flying (s : Supervisor) {ticket : Ticket} (outcome : Outcome)
    (flying : s.jobs.inFlight = some ticket) :
    Reads (s.conclude ticket.job.id outcome).2 [] [] (ticket.resolve outcome) ∧
      (s.conclude ticket.job.id outcome).1.desk = { s.desk with jobs := s.jobs.free } := by
  have completed := (s.jobs.complete_eq_some_iff ticket.job.id outcome _).mpr
    ⟨ticket, flying, rfl, rfl⟩
  simp only [conclude, completed]
  have absorbed := absorb_quiet { s with jobs := s.jobs.free } ticket.job outcome
  have told := (reads_resolved (ticket.resolve outcome)).append absorbed.1
  simp only [List.append_nil] at told
  exact ⟨told, absorbed.2⟩

/-- An answer to any other job than the one in flight changes nothing. -/
theorem conclude_of_stale (s : Supervisor) (id : Nat) (outcome : Outcome)
    (stale : s.jobs.inFlightId ≠ some id) : s.conclude id outcome = (s, []) := by
  have nothing := (s.jobs.complete_eq_none_iff id outcome).mpr stale
  simp only [conclude, nothing]

private theorem inFlightId_of_flying (jobs : JobQueue) {ticket : Ticket}
    (flying : jobs.inFlight = some ticket) : jobs.inFlightId = some ticket.job.id := by
  rw [JobQueue.inFlightId, flying]
  rfl

/-- Only the end of a compiler, its announcement and an answer concern the desk. -/
private theorem ignores_of_unanswered (desk : Desk) {event : CompilerEvent}
    (stays : event ≠ .exited) (silent : event ≠ .ready)
    (unanswered : ∀ ticket, desk.jobs.inFlight = some ticket →
      event.outcomeFor? ticket.job.id = none) :
    desk.Ignores (.compiler desk.generation event) :=
  Or.inr (Or.inr ⟨stays, fun announced => absurd announced silent, unanswered⟩)

theorem onCompilerEvent_handles (s : Supervisor) (running : s.halted = false) (verdict : Verdict)
    (event : CompilerEvent) :
    ∃ begun told, Reads (s.onCompilerEvent event).2 begun [] told ∧
      Desk.Handles verdict s.desk (.compiler s.generation event) (s.onCompilerEvent event).1.desk
        begun told := by
  cases event with
  | ready =>
      simp only [onCompilerEvent, JobQueue.markReady]
      by_cases waiting : s.jobs.phase = .notReady
      · simp only [if_pos waiting, if_true]
        exact ⟨[], [], ⟨rfl, rfl, rfl⟩, .readied running waiting⟩
      · have ignores : s.desk.Ignores (.compiler s.generation .ready) := by
          refine Or.inr (Or.inr ⟨?_, fun _ => waiting, fun _ _ => rfl⟩)
          intro impossible
          cases impossible
        simp only [if_neg waiting, Bool.false_eq_true, if_false]
        by_cases gone : s.jobs.phase = .exited
        · rw [if_pos gone]
          exact ⟨[], [], ⟨rfl, rfl, rfl⟩, .ignored ignores⟩
        · rw [if_neg gone]
          exact ⟨[], [], ⟨rfl, rfl, rfl⟩, .ignored ignores⟩
  | response id outcome =>
      simp only [onCompilerEvent]
      by_cases flying : s.jobs.inFlightId = some id
      · rcases Option.map_eq_some_iff.mp flying with ⟨ticket, found, same⟩
        have concluded := s.conclude_of_flying outcome found
        rw [same] at concluded
        rw [concluded.2]
        exact ⟨_, _, concluded.1, .concluded running found (if_pos same)⟩
      · rw [s.conclude_of_stale id outcome flying]
        have ignores : s.desk.Ignores (.compiler s.generation (.response id outcome)) := by
          refine ignores_of_unanswered s.desk (fun impossible => ?_) (fun impossible => ?_) ?_
          · cases impossible
          · cases impossible
          · intro ticket found
            refine if_neg fun same => flying ?_
            rw [inFlightId_of_flying s.jobs found, same]
        exact ⟨[], [], ⟨rfl, rfl, rfl⟩, .ignored ignores⟩
  | unmatched reason =>
      cases found : s.jobs.inFlight with
      | none =>
          have nobody : s.jobs.inFlightId = none := by
            rw [JobQueue.inFlightId, found]
            rfl
          simp only [onCompilerEvent, nobody]
          have ignores : s.desk.Ignores (.compiler s.generation (.unmatched reason)) := by
            refine ignores_of_unanswered s.desk (fun impossible => ?_) (fun impossible => ?_) ?_
            · cases impossible
            · cases impossible
            · intro ticket flying
              rw [show s.desk.jobs.inFlight = none from found] at flying
              cases flying
          exact ⟨[], [], ⟨rfl, rfl, rfl⟩, .ignored ignores⟩
      | some ticket =>
          simp only [onCompilerEvent, inFlightId_of_flying s.jobs found]
          have concluded := s.conclude_of_flying (.error (.garbled reason)) found
          rw [concluded.2]
          exact ⟨_, _, ⟨concluded.1.launches, concluded.1.handovers, concluded.1.resolutions⟩,
            .concluded running found rfl⟩
  | notification notice =>
      have ignores : s.desk.Ignores (.compiler s.generation (.notification notice)) := by
        refine ignores_of_unanswered s.desk (fun impossible => ?_) (fun impossible => ?_)
          (fun _ _ => rfl)
        · cases impossible
        · cases impossible
      exact ⟨[], [], ⟨rfl, rfl, rfl⟩, .ignored ignores⟩
  | exited =>
      have gone := s.reads_compilerGone
      have told : Reads (s.onCompilerEvent .exited).2 [] [] s.jobs.losses := by
        cases farewell : s.closing <;> simp [reads_iff, onCompilerEvent, farewell,
          gone.launches, gone.handovers, gone.resolutions]
      exact ⟨[], s.jobs.losses, told, .lost running .exited⟩

/-- Any event but the end, which is not handled but ends the run. -/
theorem handle_handles (s : Supervisor) (running : s.halted = false) (verdict : Verdict)
    {event : Event} (continues : event ≠ .stop) :
    ∃ begun told, Reads (s.handle verdict event).2 begun [] told ∧
      Desk.Handles verdict s.desk event (s.handle verdict event).1.desk begun told := by
  cases event with
  | launch settings =>
      simp only [handle]
      by_cases first : s.generation = 0
      · rw [if_pos first]
        cases launched : verdict.launch settings.compiler with
        | none =>
            have begun := s.reads_start_of_started verdict settings launched
            rw [begun.2]
            exact ⟨_, _, begun.1, .launched running first launched⟩
        | some cause =>
            have begun := s.reads_start_of_failed verdict settings launched
            rw [begun.2]
            exact ⟨_, _, begun.1, .lost running (.launchFailed first launched)⟩
      · rw [if_neg first]
        exact ⟨[], [], ⟨rfl, rfl, rfl⟩, .ignored (Or.inr first)⟩
  | restart settings => exact s.restart_handles running verdict settings
  | submit request waiter =>
      exact ⟨[], _, reads_resolved _, .submitted request waiter⟩
  | compiler generation event =>
      simp only [handle]
      by_cases current : generation = s.generation
      · rw [if_pos current, current]
        exact s.onCompilerEvent_handles running verdict event
      · rw [if_neg current]
        exact ⟨[], [], ⟨rfl, rfl, rfl⟩, .ignored (Or.inr (Or.inl current))⟩
  | status waiter => exact ⟨[], [], ⟨rfl, rfl, rfl⟩, .ignored (Or.inr trivial)⟩
  | stop => exact absurd rfl continues

theorem pump_pumps (s : Supervisor) (verdict : Verdict) :
    ∃ handed lost, Reads (s.pump verdict).2 [] handed lost ∧
      Desk.Pumps verdict s.desk (s.pump verdict).1.desk handed lost := by
  have offer : ∀ (job : Job) (accepted : Bool),
      Reads (s.channel.toList.map (Effect.dispatched · job accepted)) []
        (s.channel.toList.map (⟨·, job, accepted⟩)) [] := by
    simp [reads_iff]
  cases driven : s.jobs.drive with
  | none =>
      simp only [pump, driven]
      exact ⟨[], [], ⟨rfl, rfl, rfl⟩, .idle ((s.jobs.drive_eq_none_iff).mp driven)⟩
  | some next =>
      rcases next with ⟨job, jobs⟩
      rcases (s.jobs.drive_eq_some_iff jobs job).mp driven with
        ⟨ticket, rest, ready, free, split, rfl, rfl⟩
      simp only [pump, driven]
      cases refused : s.refusal? verdict ticket.job with
      | some cause =>
          -- The job is in flight when it is refused, so it is lost with the others.
          have lost : JobQueue.losses { s.jobs with
              phase := .busy
              queue := rest
              inFlight := some ticket } = s.jobs.losses := by
            simp only [JobQueue.losses, JobQueue.outstanding, free, split]
            rfl
          have gone := reads_compilerGone { s with jobs := { s.jobs with
            phase := .busy
            queue := rest
            inFlight := some ticket } }
          rw [lost] at gone
          refine ⟨s.channel.toList.map (⟨·, ticket.job, false⟩), s.jobs.losses, ?_,
            .failed ready free split ?_⟩
          · simp [reads_iff, gone.launches, gone.handovers, gone.resolutions]
          cases held : s.channel with
          | none => exact Or.inl held
          | some generation =>
              simp only [refusal?, held] at refused
              exact Or.inr ⟨cause, refused⟩
      | none =>
          have held : ∃ generation, s.channel = some generation ∧
              verdict.dispatch ticket.job = none := by
            cases held : s.channel with
            | none =>
                simp only [refusal?, held] at refused
                cases refused
            | some generation =>
                simp only [refusal?, held] at refused
                exact ⟨generation, rfl, refused⟩
          rcases held with ⟨generation, held, accepts⟩
          have taken := @Desk.Pumps.taken verdict s.desk _ _ _ ready free split held accepts
          have told := offer ticket.job true
          rw [show s.channel.toList.map (Handover.mk · ticket.job true) =
            [⟨generation, ticket.job, true⟩] by rw [held]; rfl] at told
          cases ticket.job.kind.category with
          | workspace =>
              have withdrawn := told.append (quiet_published s.ledger.clear.2)
              simp only [List.append_nil] at withdrawn
              exact ⟨_, _, withdrawn, taken⟩
          | lifecycle => exact ⟨_, _, told, taken⟩
          | recompile => exact ⟨_, _, told, taken⟩
          | query => exact ⟨_, _, told, taken⟩

theorem reads_halt (s : Supervisor) : Reads s.halt.2 [] [] s.jobs.losses := by
  simp [reads_iff, halt]

/-- The supervisor after it handled an event and before it hands over a job. -/
def middle (s : Supervisor) (verdict : Verdict) (event : Event) : Supervisor :=
  if s.halted then s
  else match event with
    | .stop => s.halt.1
    | event => (s.handle verdict event).1

theorem middle_of_halted (s : Supervisor) (halted : s.halted = true) (verdict : Verdict)
    (event : Event) : s.middle verdict event = s :=
  if_pos halted

theorem middle_stop (s : Supervisor) (running : s.halted = false) (verdict : Verdict) :
    s.middle verdict .stop = s.halt.1 := by
  simp only [middle, running, Bool.false_eq_true, if_false]

theorem middle_of_ne_stop (s : Supervisor) (running : s.halted = false) (verdict : Verdict)
    {event : Event} (continues : event ≠ .stop) :
    s.middle verdict event = (s.handle verdict event).1 := by
  cases event with
  | stop => exact absurd rfl continues
  | _ => simp only [middle, running, Bool.false_eq_true, if_false]

/-- Every step of the supervisor handles its event and then hands over at most
one job. -/
theorem step_handles_pumps (s : Supervisor) (valid : s.desk.Valid) (verdict : Verdict)
    (event : Event) :
    ∃ told lost,
      Desk.Handles verdict s.desk event (s.middle verdict event).desk
        (launches (s.step verdict event).2) told ∧
      Desk.Pumps verdict (s.middle verdict event).desk (s.step verdict event).1.desk
        (handovers (s.step verdict event).2) lost ∧
      resolutions (s.step verdict event).2 = told ++ lost := by
  cases ended : s.halted with
  | true =>
      rw [s.step_of_halted ended, s.middle_of_halted ended]
      have gone : s.jobs.phase = .exited := valid.ended ended
      have idle : Desk.Pumps verdict s.desk s.desk [] [] := by
        refine .idle fun driven => ?_
        rw [show s.desk.jobs.phase = .exited from gone] at driven
        cases driven.1
      cases event with
      | submit request waiter =>
          have handles := @Desk.Handles.submitted verdict s.desk request waiter
          rw [s.desk.jobs.submit_of_exited gone] at handles
          cases waiter <;> exact ⟨_, [], handles, idle, rfl⟩
      | _ => exact ⟨[], [], .ignored (Or.inl ⟨ended, fun _ _ => (nomatch ·)⟩), idle, rfl⟩
  | false =>
      by_cases last : event = .stop
      · subst event
        rw [s.step_stop ended, s.middle_stop ended]
        have told := s.reads_halt
        rw [told.launches, told.handovers, told.resolutions]
        have handles := @Desk.Handles.lost verdict s.desk _ _ _ ended .stopped
        exact ⟨_, [], handles, .idle (nomatch ·.1), (List.append_nil _).symm⟩
      · rw [s.step_of_ne_stop ended verdict last, s.middle_of_ne_stop ended verdict last]
        rcases s.handle_handles ended verdict last with ⟨begun, told, read, handles⟩
        rcases (s.handle verdict event).1.pump_pumps verdict with ⟨handed, lost, read', pumps⟩
        have both := read.append read'
        simp only [List.append_nil, List.nil_append] at both
        rw [both.launches, both.handovers, both.resolutions]
        exact ⟨told, lost, handles, pumps, rfl⟩

end Supervisor
end CompilerRelay
