import CompilerRelay.Proofs.Supervisor.Inert
import CompilerRelay.Proofs.Supervisor.Outcomes
import CompilerRelay.Proofs.Supervisor.Redraw
import CompilerRelay.Proofs.Supervisor.Wanted

/-!
# What the user is told of a compiler that is lost

The end of a compiler is expected if it took a shutdown job, and the user is
warned of any other.  The supervisor remembers this in one bit, which has to
follow the life of a compiler: it is set when the job is taken and not when it
is queued or refused, and it is cleared by every launch, whether the launch
succeeds or not.  `closing_iff` reads the bit off the handovers of the run.

A launch that fails is told once, and it loses every job, like the end of a
compiler.  That a restart gives up the jobs before it attempts the launch makes
no difference to those who wait.
-/

namespace CompilerRelay

open Effect

namespace Effect

def notice? : Effect → Option Notice
  | notified notice => some notice
  | _ => none

/-- What the editor was told apart from diagnostics, in order. -/
def notices (effects : List Effect) : List Notice :=
  effects.filterMap notice?

attribute [simp] notice?

@[simp] theorem notices_nil : notices [] = [] := rfl

@[simp] theorem notices_cons (effect : Effect) (rest : List Effect) :
    notices (effect :: rest) = effect.notice?.toList ++ notices rest := by
  rw [notices, List.filterMap_cons]
  cases effect.notice? <;> rfl

@[simp] theorem notices_append (first second : List Effect) :
    notices (first ++ second) = notices first ++ notices second :=
  List.filterMap_append

@[simp] theorem notices_resolved (told : List Resolution) : notices (told.map resolved) = [] :=
  filterMap_map_eq_nil notice? resolved (fun _ => rfl) told

@[simp] theorem notices_published (sent : List Publication) :
    notices (sent.map published) = [] :=
  filterMap_map_eq_nil notice? published (fun _ => rfl) sent

@[simp] theorem notices_terminated (generations : List Nat) :
    notices (generations.map terminated) = [] :=
  filterMap_map_eq_nil notice? terminated (fun _ => rfl) generations

@[simp] theorem notices_released (generations : List Nat) :
    notices (generations.map released) = [] :=
  filterMap_map_eq_nil notice? released (fun _ => rfl) generations

end Effect

theorem JobKind.category_eq_lifecycle_iff {kind : JobKind} :
    kind.category = .lifecycle ↔ kind = .shutdown := by
  cases kind <;> decide

/-! ## The expected end -/

namespace Supervisor

variable (s : Supervisor) (verdict : Verdict)

theorem absorb_frame (job : Job) (outcome : Outcome) :
    ∃ ledger, (s.absorb job outcome).1 = { s with ledger := ledger } := by
  cases outcome with
  | ok answer =>
      by_cases reports : job.kind.reports = true
      · simp only [absorb, if_pos reports]
        cases Report.ofAnswer answer <;> exact ⟨_, rfl⟩
      · simp only [absorb, if_neg reports]
        exact ⟨_, rfl⟩
  | error error => cases error <;> exact ⟨_, rfl⟩

theorem conclude_frame (id : Nat) (outcome : Outcome) : ∃ jobs ledger,
    (s.conclude id outcome).1 = { s with jobs := jobs, ledger := ledger } := by
  cases completed : s.jobs.complete id outcome with
  | none =>
      simp only [conclude, completed]
      exact ⟨_, _, rfl⟩
  | some done =>
      simp only [conclude, completed]
      rcases absorb_frame { s with jobs := done.jobs } done.job outcome with ⟨ledger, same⟩
      exact ⟨_, ledger, same⟩

/-- What a compiler does concerns neither the launches nor what is known of
its end. -/
theorem onCompilerEvent_frame (event : CompilerEvent) : ∃ jobs ledger channel,
    (s.onCompilerEvent event).1 =
      { s with jobs := jobs, ledger := ledger, channel := channel } := by
  cases event with
  | ready =>
      simp only [onCompilerEvent]
      by_cases marked : s.jobs.markReady.2 = true
      · rw [if_pos marked]
        exact ⟨_, _, _, rfl⟩
      · rw [if_neg marked]
        by_cases gone : s.jobs.phase = .exited
        · rw [if_pos gone]
          exact ⟨_, _, _, rfl⟩
        · rw [if_neg gone]
          exact ⟨_, _, _, rfl⟩
  | response id outcome =>
      rcases s.conclude_frame id outcome with ⟨jobs, ledger, same⟩
      exact ⟨jobs, ledger, s.channel, same⟩
  | unmatched reason =>
      cases flying : s.jobs.inFlightId with
      | none =>
          simp only [onCompilerEvent, flying]
          exact ⟨_, _, _, rfl⟩
      | some id =>
          simp only [onCompilerEvent, flying]
          rcases s.conclude_frame id (.error (.garbled reason)) with ⟨jobs, ledger, same⟩
          exact ⟨jobs, ledger, s.channel, same⟩
  | notification => exact ⟨_, _, _, rfl⟩
  | exited => exact ⟨_, _, _, rfl⟩

theorem start_closing (settings : Settings) : (s.start verdict settings).1.closing = false := by
  unfold start
  cases verdict.launch settings.compiler <;> rfl

/-- Every launch, and nothing else, makes the end of a compiler unexpected. -/
theorem handle_closing (event : Event) : (s.handle verdict event).1.closing =
    (s.closing && (event.wants? s.generation).isNone) := by
  cases event with
  | launch settings =>
      simp only [handle, Event.wants?]
      by_cases first : s.generation = 0
      · rw [if_pos first, if_pos first, start_closing]
        exact (Bool.and_false _).symm
      · rw [if_neg first, if_neg first]
        exact (Bool.and_true _).symm
  | restart settings =>
      exact (start_closing _ verdict settings).trans (Bool.and_false _).symm
  | compiler generation event =>
      simp only [handle]
      by_cases current : generation = s.generation
      · rw [if_pos current]
        rcases s.onCompilerEvent_frame event with ⟨jobs, ledger, channel, same⟩
        rw [same]
        exact (Bool.and_true _).symm
      · rw [if_neg current]
        exact (Bool.and_true _).symm
  | _ => exact (Bool.and_true _).symm

/-- The end is expected once a shutdown job was taken; to offer the job is not
enough. -/
theorem pump_closing : (s.pump verdict).1.closing = true ↔ s.closing = true ∨
    ∃ handover ∈ handovers (s.pump verdict).2,
      handover.accepted = true ∧ handover.job.kind = .shutdown := by
  cases driven : s.jobs.drive with
  | none =>
      simp only [pump, driven]
      refine ⟨Or.inl, fun either => either.elim id ?_⟩
      rintro ⟨_, member, _⟩
      cases member
  | some next =>
      rcases next with ⟨job, jobs⟩
      simp only [pump, driven]
      cases refused : s.refusal? verdict job with
      | some cause =>
          have gone := (reads_compilerGone { s with jobs := jobs }).handovers
          refine ⟨Or.inl, fun either => either.elim id ?_⟩
          simp [gone]
      | none =>
          rcases channel_of_taken refused with ⟨generation, held⟩
          have offered : handovers (s.channel.toList.map (Effect.dispatched · job true)) =
              [⟨generation, job, true⟩] := by
            simp [held]
          have other : job.kind.category ≠ .lifecycle → (s.closing = true ↔ s.closing = true ∨
              ∃ handover ∈ [Handover.mk generation job true],
                handover.accepted = true ∧ handover.job.kind = .shutdown) := by
            intro other
            refine ⟨Or.inl, fun either => either.elim id ?_⟩
            rintro ⟨handover, member, _, shutdown⟩
            rw [List.mem_singleton.mp member] at shutdown
            exact absurd (JobKind.category_eq_lifecycle_iff.mpr shutdown) other
          cases category : job.kind.category with
          | workspace =>
              have withdrawn : handovers { s with jobs := jobs }.withdraw.2 = [] := by
                simp [withdraw]
              rw [category] at other
              simp only [handovers_append, offered, withdrawn, List.append_nil]
              exact other Category.noConfusion
          | lifecycle =>
              simp only [offered]
              exact ⟨fun _ => Or.inr ⟨_, List.mem_singleton_self _, rfl,
                JobKind.category_eq_lifecycle_iff.mp category⟩, fun _ => trivial⟩
          | recompile =>
              rw [category] at other
              simp only [offered]
              exact other Category.noConfusion
          | query =>
              rw [category] at other
              simp only [offered]
              exact other Category.noConfusion

end Supervisor

namespace Moment

/-- The compiler of a generation took a shutdown job.  A job that was offered
and not taken does not count, and neither does one that still waits. -/
def Dismissed (events : List (Verdict × Event)) (generation : Nat) : Prop :=
  ∃ job, Sent events generation job ∧ job.kind = .shutdown

theorem sent_through_iff (moment : Moment) (generation : Nat) (job : Job) :
    Sent moment.through generation job ↔ Sent moment.before generation job ∨
      (⟨generation, job, true⟩ : Handover) ∈ handovers moment.effects := by
  constructor
  · rintro ⟨taken, inside, given⟩
    rcases (in_through_iff taken moment).mp inside with earlier | same
    · exact Or.inl ⟨taken, earlier, given⟩
    · exact Or.inr (same ▸ given)
  · rintro (sent | given)
    · exact sent.through
    · exact ⟨moment, moment.in_through, given⟩

/-- No job was sent to a compiler that is not launched yet. -/
theorem Sent.generation_le {moment : Moment} {generation : Nat} {job : Job}
    (sent : Sent moment.before generation job) : generation ≤ moment.state.generation := by
  rcases sent with ⟨taken, inside, given⟩
  rcases preserved_once.offered given with ⟨_, _, _, _, _, _, _, _, _, _, current, _⟩
  change taken.next.generation = generation at current
  exact current ▸ Precedes.generation_le inside

/-- What a step that runs on does to the expectation. -/
theorem next_closing (moment : Moment) (running : moment.state.halted = false)
    (continues : moment.event ≠ .stop) : moment.next.closing = true ↔
    moment.state.closing = true ∧ moment.next.generation = moment.state.generation ∨
      ∃ job, (⟨moment.next.generation, job, true⟩ : Handover) ∈ handovers moment.effects ∧
        job.kind = .shutdown := by
  rcases moment.halves with ⟨told, lost, handled, _, _⟩
  have stepped := moment.state.step_of_ne_stop running moment.verdict continues
  rcases moment.state.handle_handles running moment.verdict continues with ⟨_, _, read, _⟩
  have given : handovers moment.effects = handovers
      ((moment.state.handle moment.verdict moment.event).1.pump moment.verdict).2 := by
    rw [effects, stepped, handovers_append, read.handovers, List.nil_append]
  have launched := congrArg List.length (handled.settings running)
  rw [List.length_map, List.length_map] at launched
  have generation := moment.next_generation.1
  have kept : (moment.event.wants? moment.state.generation).isNone = true ↔
      moment.next.generation = moment.state.generation := by
    rw [generation, launched]
    change _ ↔ _ + (moment.event.wants? moment.state.generation).toList.length = _
    cases moment.event.wants? moment.state.generation <;> simp
  have closing := (moment.state.handle moment.verdict moment.event).1.pump_closing moment.verdict
  rw [Supervisor.handle_closing, Bool.and_eq_true, kept, ← given] at closing
  have next : moment.next.closing =
      ((moment.state.handle moment.verdict moment.event).1.pump moment.verdict).1.closing :=
    congrArg (·.1.closing) stepped
  rw [next, closing]
  refine or_congr Iff.rfl ⟨?_, ?_⟩
  · rintro ⟨handover, member, accepted, shutdown⟩
    rcases preserved_once.offered member with ⟨_, _, _, _, _, _, _, _, _, _, current, _⟩
    refine ⟨handover.job, ?_, shutdown⟩
    rw [show moment.next.generation = handover.generation from current, ← accepted]
    exact member
  · rintro ⟨job, member, shutdown⟩
    exact ⟨_, member, rfl, shutdown⟩

/-- A supervisor that has ended, or ends now, hands nothing over. -/
theorem still_of_ended (moment : Moment)
    (ends : moment.state.halted = true ∨ moment.event = .stop) :
    moment.next.closing = moment.state.closing ∧
      moment.next.generation = moment.state.generation ∧ handovers moment.effects = [] := by
  cases running : moment.state.halted with
  | true =>
      rw [next, effects, moment.state.step_of_halted running]
      refine ⟨rfl, rfl, ?_⟩
      cases moment.event with
      | submit request waiter => cases waiter <;> rfl
      | _ => rfl
  | false =>
      have last : moment.event = .stop :=
        ends.resolve_left (Bool.eq_false_iff.mp running)
      rw [next, effects, last, moment.state.step_stop running]
      exact ⟨rfl, rfl, moment.state.handovers_halt⟩

/-- The end of a compiler is expected exactly if it took a shutdown job. -/
theorem closing_iff (events : List (Verdict × Event)) :
    (Supervisor.initial.run events).1.closing = true ↔
      Dismissed events (Supervisor.initial.run events).1.generation := by
  refine induction (P := fun events s => s.closing = true ↔ Dismissed events s.generation)
    ?_ ?_ events
  · refine ⟨Bool.noConfusion, ?_⟩
    rintro ⟨_, ⟨moment, inside, _⟩, _⟩
    exact absurd inside moment.not_in_nil
  · intro moment inductionHypothesis
    by_cases ends : moment.state.halted = true ∨ moment.event = .stop
    · rcases moment.still_of_ended ends with ⟨closing, generation, none⟩
      rw [closing, generation, inductionHypothesis]
      refine exists_congr fun job => and_congr_left fun _ => ?_
      rw [sent_through_iff, none]
      exact ⟨Or.inl, fun either => either.resolve_right List.not_mem_nil⟩
    · rcases not_or.mp ends with ⟨running, continues⟩
      rw [moment.next_closing (Bool.eq_false_iff.mpr running) continues, inductionHypothesis]
      constructor
      · rintro (⟨⟨job, sent, shutdown⟩, same⟩ | ⟨job, given, shutdown⟩)
        · exact ⟨job, same ▸ sent.through, shutdown⟩
        · exact ⟨job, (sent_through_iff moment _ job).mpr (Or.inr given), shutdown⟩
      · rintro ⟨job, sent, shutdown⟩
        rcases (sent_through_iff moment _ job).mp sent with before | given
        · -- A compiler that had a job then is the current one, so none was launched.
          have reached := before.generation_le
          have grows := moment.next_generation.1
          have same : moment.next.generation = moment.state.generation := by omega
          exact Or.inl ⟨⟨job, same ▸ before, shutdown⟩, same⟩
        · exact Or.inr ⟨job, given, shutdown⟩

end Moment

/-! ## A launch that fails -/

/-- What the user is told when a compiler cannot be started. -/
def startFailure (settings : LaunchSettings) (cause : Failure) : Notice :=
  .showMessage (.error
    ("Failed to start compiler `" ++ settings.command ++ "`: " ++ cause.text))

namespace Supervisor

variable (s : Supervisor) (verdict : Verdict)

@[simp] theorem notices_compilerGone : notices s.compilerGone.2 = [.status .exited] := by
  simp [compilerGone, JobQueue.exit, JobQueue.abandon]

theorem notices_start_of_failed {settings : Settings} {cause : Failure}
    (failed : verdict.launch settings.compiler = some cause) :
    notices (s.start verdict settings).2 =
      [startFailure settings.compiler cause, .status .exited] := by
  simp [start, failed, startFailure]

/-- That a restart takes back diagnostics and gives up jobs is no notice. -/
theorem notices_restart_of_failed {settings : Settings} {cause : Failure}
    (failed : verdict.launch settings.compiler = some cause) :
    notices (s.restart verdict settings).2 =
      [startFailure settings.compiler cause, .status .exited] := by
  simp [restart, withdraw, apply_ite notices, notices_start_of_failed _ verdict failed]

theorem notices_handle_of_failed {event : Event} {settings : Settings} {cause : Failure}
    (wanted : event.wants? s.generation = some settings)
    (failed : verdict.launch settings.compiler = some cause) :
    notices (s.handle verdict event).2 =
      [startFailure settings.compiler cause, .status .exited] := by
  cases event with
  | launch asked =>
      by_cases first : s.generation = 0
      · rw [Event.wants?, if_pos first] at wanted
        cases wanted
        simp only [handle, if_pos first]
        exact s.notices_start_of_failed verdict failed
      · rw [Event.wants?, if_neg first] at wanted
        cases wanted
  | restart asked =>
      cases wanted
      exact s.notices_restart_of_failed verdict failed
  | _ => cases wanted

/-- The end of the compiler is told, and it is a warning unless it was expected. -/
theorem notices_exited : notices (s.onCompilerEvent .exited).2 =
    .status .exited :: if s.closing then [] else [.showMessage (.warning exitWarning)] := by
  cases farewell : s.closing <;> simp [onCompilerEvent, farewell]

end Supervisor

namespace Desk

variable {verdict : Verdict} {desk after : Desk} {event : Event} {begun : List Launch}
  {told : List Resolution}

theorem Handles.started (handled : Handles verdict desk event after begun told) {launch : Launch}
    (attempted : launch ∈ begun) : launch.started = (verdict.launch launch.settings).isNone := by
  cases handled with
  | launched _ _ started => simp [List.mem_singleton.mp attempted, started]
  | lost _ loss =>
      cases loss with
      | launchFailed _ failed => simp [List.mem_singleton.mp attempted, failed]
      | restarted started => simp [List.mem_singleton.mp attempted, started]
      | restartFailed failed => simp [List.mem_singleton.mp attempted, failed]
      | exited => cases attempted
      | stopped => cases attempted
  | _ => cases attempted

/-- A launch that fails is the only one in its step, and it loses every job. -/
theorem Handles.failed (handled : Handles verdict desk event after begun told) {launch : Launch}
    (attempted : launch ∈ begun) (failed : launch.started = false) :
    desk.halted = false ∧ told = desk.jobs.losses ∧
      after.jobs = (desk.jobs.abandon .exited).jobs ∧
        ∃ settings cause, event.wants? desk.generation = some settings ∧
          verdict.launch settings.compiler = some cause ∧
            begun = [⟨desk.generation + 1, settings.compiler, false⟩] := by
  cases handled with
  | launched =>
      rw [List.mem_singleton.mp attempted] at failed
      cases failed
  | lost running loss =>
      cases loss with
      | launchFailed first refused =>
          exact ⟨running, rfl, rfl, _, _, if_pos first, refused, rfl⟩
      | restarted =>
          rw [List.mem_singleton.mp attempted] at failed
          cases failed
      | restartFailed refused => exact ⟨running, rfl, rfl, _, _, rfl, refused, rfl⟩
      | exited => cases attempted
      | stopped => cases attempted
  | _ => cases attempted

/-- Without a compiler no job is handed over, and none is lost then. -/
theorem Pumps.of_exited {handed : List Handover} {lost : List Resolution}
    (pumped : Pumps verdict desk after handed lost) (gone : desk.jobs.phase = .exited) :
    after = desk ∧ lost = [] := by
  cases pumped with
  | idle => exact ⟨rfl, rfl⟩
  | taken ready => exact Phase.noConfusion (gone.symm.trans ready)
  | failed ready => exact Phase.noConfusion (gone.symm.trans ready)

end Desk

namespace Moment

theorem effects_of_exited {moment : Moment} (running : moment.state.halted = false)
    (continues : moment.event ≠ .stop) (gone : moment.middle.jobs.phase = .exited) :
    moment.effects = (moment.state.handle moment.verdict moment.event).2 := by
  rw [middle, moment.state.middle_of_ne_stop running moment.verdict continues] at gone
  have rests : (moment.state.handle moment.verdict moment.event).1.desk.Rests :=
    fun waits => Phase.noConfusion (gone.symm.trans waits.1)
  rw [effects, moment.state.step_of_ne_stop running moment.verdict continues,
    Supervisor.pump_of_rests _ rests, List.append_nil]

/-- An attempt to launch a compiler failed, and this is what comes of it.  The
fields are about one step: the attempt, what is told in it, and the state after
it. -/
structure Fails (moment : Moment) (settings : Settings) (cause : Failure) : Prop where
  /-- The event is a restart or the first launch. -/
  wanted : moment.event.wants? moment.state.generation = some settings
  refused : moment.verdict.launch settings.compiler = some cause
  single : launches moment.effects =
    [⟨moment.state.generation + 1, settings.compiler, false⟩]
  /-- The user is told once, and the phase is announced. -/
  told : notices moment.effects = [startFailure settings.compiler cause, .status .exited]
  exited : moment.next.jobs.phase = .exited
  queue : moment.next.jobs.queue = []
  inFlight : moment.next.jobs.inFlight = none
  /-- Every job that was outstanding fails because there is no compiler. -/
  lost : resolutions moment.effects = moment.state.jobs.losses

/-- Every failed attempt, whether it is the first one or that of a restart. -/
theorem fails_of_launch (moment : Moment) {launch : Launch}
    (attempted : launch ∈ launches moment.effects) (failed : launch.started = false) :
    ∃ settings cause, moment.Fails settings cause ∧ launch.settings = settings.compiler := by
  rcases moment.halves with ⟨told, lost, handled, pumped, resolved⟩
  rcases handled.failed attempted failed with
    ⟨running, losses, jobs, settings, cause, wanted, refused, single⟩
  have gone : moment.middle.jobs.phase = .exited := congrArg JobQueue.phase jobs
  rcases pumped.of_exited gone with ⟨next, nothing⟩
  have same : moment.next.jobs = (moment.state.jobs.abandon .exited).jobs :=
    (congrArg Desk.jobs next).trans jobs
  have continues : moment.event ≠ .stop := by
    intro last
    rw [last] at wanted
    cases wanted
  refine ⟨settings, cause, ⟨wanted, refused, single, ?_, ?_, ?_, ?_, ?_⟩, ?_⟩
  · rw [effects_of_exited running continues gone]
    exact moment.state.notices_handle_of_failed moment.verdict wanted refused
  · exact congrArg JobQueue.phase same
  · exact congrArg JobQueue.queue same
  · exact congrArg JobQueue.inFlight same
  · rw [resolved, losses, nothing, List.append_nil]
    rfl
  · rw [single] at attempted
    rw [List.mem_singleton.mp attempted]

/-- An event that asks for a launch attempts it, so what is refused has failed. -/
theorem fails_of_refused (moment : Moment) (running : moment.state.halted = false)
    {settings : Settings} {cause : Failure}
    (wanted : moment.event.wants? moment.state.generation = some settings)
    (refused : moment.verdict.launch settings.compiler = some cause) :
    moment.Fails settings cause := by
  rcases moment.halves with ⟨told, lost, handled, _, _⟩
  have asked := handled.settings running
  change _ = (moment.event.wants? moment.state.generation).toList.map (·.compiler) at asked
  rw [wanted] at asked
  have listed : settings.compiler ∈ (launches moment.effects).map (·.settings) :=
    asked ▸ List.mem_singleton_self _
  rcases List.mem_map.mp listed with ⟨launch, attempted, same⟩
  have failed : launch.started = false := by
    rw [handled.started attempted, same, refused]
    rfl
  rcases moment.fails_of_launch attempted failed with ⟨_, _, fails, _⟩
  cases fails.wanted.symm.trans wanted
  cases fails.refused.symm.trans refused
  exact fails

/-- What the user is told when the current compiler ends. -/
theorem notices_of_exited {moment : Moment} (running : moment.state.halted = false)
    (ended : moment.event = .compiler moment.state.generation .exited) :
    notices moment.effects = .status .exited ::
      if moment.state.closing then [] else [.showMessage (.warning Supervisor.exitWarning)] := by
  have continues : moment.event ≠ .stop := by
    intro last
    rw [last] at ended
    cases ended
  have gone : moment.middle.jobs.phase = .exited := by
    rw [middle, moment.state.middle_of_ne_stop running moment.verdict continues, ended]
    simp only [Supervisor.handle, if_true]
    rfl
  rw [effects_of_exited running continues gone, ended]
  simp only [Supervisor.handle, if_true]
  exact moment.state.notices_exited

end Moment

open Moment

/-- What the user is told of the compilers that are lost in a run.  A compiler
may end by itself, after it was told to, or before it began, and only the first
and the last are worth a message. -/
structure Alarms (events : List (Verdict × Event)) : Prop where
  /-- The end of the current compiler is a warning exactly if that compiler took
  no shutdown job before. -/
  warned : ∀ moment : Moment, moment.In events → moment.state.halted = false →
    moment.event = .compiler moment.state.generation .exited →
      (.showMessage (.warning Supervisor.exitWarning) ∈ notices moment.effects ↔
        ¬ Dismissed moment.before moment.state.generation)
  /-- Beside the warning only the phase is announced then. -/
  announced : ∀ moment : Moment, moment.In events → moment.state.halted = false →
    moment.event = .compiler moment.state.generation .exited →
      notices moment.effects = [.status .exited] ∨
        notices moment.effects =
          [.status .exited, .showMessage (.warning Supervisor.exitWarning)]
  /-- Whenever a launch that an event asks for is refused, this is told and loses all jobs. -/
  refused : ∀ moment : Moment, moment.In events → moment.state.halted = false →
    ∀ settings cause, moment.event.wants? moment.state.generation = some settings →
      moment.verdict.launch settings.compiler = some cause → moment.Fails settings cause
  /-- No other attempt to launch a compiler fails. -/
  failed : ∀ moment : Moment, moment.In events → ∀ launch ∈ launches moment.effects,
    launch.started = false →
      ∃ settings cause, moment.Fails settings cause ∧ launch.settings = settings.compiler

/-- The user is warned of every loss, and of no end that was asked for. -/
theorem alarmed (events : List (Verdict × Event)) : Alarms events where
  warned := by
    intro moment _ running ended
    rw [notices_of_exited running ended, state, ← closing_iff moment.before]
    cases (Supervisor.initial.run moment.before).1.closing with
    | true => simp
    | false => simp
  announced := by
    intro moment _ running ended
    rw [notices_of_exited running ended]
    cases moment.state.closing with
    | true => exact Or.inl rfl
    | false => exact Or.inr rfl
  refused moment _ running _ _ wanted refused := moment.fails_of_refused running wanted refused
  failed moment _ _ attempted failed := moment.fails_of_launch attempted failed

/-- A compiler that took a shutdown job ends, then the next one ends by itself
while such a job is queued, and the third one does not start. -/
theorem alarmed_of_shutdown :
    let willing : Verdict := ⟨fun _ => none, fun _ => none⟩
    let unwilling : Verdict := ⟨fun _ => some ⟨["no such file"]⟩, fun _ => none⟩
    let events : List (Verdict × Event) := [(willing, .launch {}), (willing, .compiler 1 .ready),
      (willing, .submit .shutdown none), (willing, .compiler 1 .exited), (willing, .restart {}),
      (willing, .submit .shutdown (some 7)), (willing, .compiler 2 .exited),
      (unwilling, .restart {})]
    let message? : Notice → Option WindowMessage := fun notice =>
      match notice with
      | .showMessage message => some message
      | _ => none
    Alarms events ∧ (notices (Supervisor.initial.run events).2).filterMap message? =
      [.warning Supervisor.exitWarning,
        .error "Failed to start compiler `compiler`: no such file"] :=
  ⟨alarmed _, by decide +kernel⟩

end CompilerRelay
