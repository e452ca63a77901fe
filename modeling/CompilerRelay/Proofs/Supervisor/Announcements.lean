import CompilerRelay.Proofs.Supervisor.Custody

/-!
# The phases that the editor is told

The phase of the queue changes in many places and is announced in few of them.
That a job is handed over or done is not announced, so the editor goes on to
see `ready` while the queue is busy; everything else that changes the phase is.

A run is read as a list of marks, the launches and the announcements in it.
What one operation of the supervisor adds to them, together with the change of
the phase, is a `Shift`, and a step is two of them.  The announcements of a
generation begin in one of three ways (`Opening`) and go on with the end of its
compiler.  `Stage` joins this course to the phase, and every shift keeps it.

After the end of the supervisor nothing is announced any more, while the queue
has lost its compiler; the agreement is therefore stated for the time before.
-/

namespace CompilerRelay

/-! ## Marks -/

/-- A launch, or a phase that the editor was told.  Notices of compilers that
look like announcements are marks as well; runs that have them are excluded by
`Credible`. -/
inductive Mark where
  | launched (started : Bool)
  | announced (phase : Phase)
  deriving DecidableEq, Repr

namespace Mark

def phase? : Mark → Option Phase
  | announced phase => some phase
  | launched _ => none

def started? : Mark → Option Bool
  | launched started => some started
  | announced _ => none

end Mark

namespace Effect

def mark? : Effect → Option Mark
  | launched _ _ started => some (.launched started)
  | notified (.status phase) => some (.announced phase)
  | _ => none

def status? : Effect → Option Phase
  | notified (.status phase) => some phase
  | _ => none

def marks (effects : List Effect) : List Mark :=
  effects.filterMap mark?

/-- The phases that the editor was told, in order. -/
def statuses (effects : List Effect) : List Phase :=
  effects.filterMap status?

attribute [simp] mark?

@[simp] theorem marks_nil : marks [] = [] := rfl

@[simp] theorem marks_cons (effect : Effect) (rest : List Effect) :
    marks (effect :: rest) = effect.mark?.toList ++ marks rest := by
  rw [marks, List.filterMap_cons]
  cases effect.mark? <;> rfl

@[simp] theorem marks_append (first second : List Effect) :
    marks (first ++ second) = marks first ++ marks second :=
  List.filterMap_append

theorem statuses_eq (effects : List Effect) :
    statuses effects = (marks effects).filterMap Mark.phase? := by
  rw [statuses, marks, List.filterMap_filterMap]
  congr 1
  funext effect
  cases effect with
  | notified notice => cases notice <;> rfl
  | _ => rfl

end Effect

/-- Whether a compiler was started, and the phases that were announced from
then on until the next launch. -/
structure Generation where
  started : Bool
  announced : List Phase
  deriving DecidableEq, Repr

/-- One more mark; the last generation comes first.  Nothing is expected to be
announced before the first launch. -/
def Generation.note (told : List Generation) : Mark → List Generation
  | .launched started => ⟨started, []⟩ :: told
  | .announced phase =>
    match told with
    | [] => []
    | current :: before => { current with announced := current.announced ++ [phase] } :: before

/-- The generations of a run, the last one first. -/
def generations (effects : List Effect) : List Generation :=
  (Effect.marks effects).foldl Generation.note []

/-! ## The course of a generation -/

/-- What is announced while a compiler is there: that it is not ready if it was
started at all, and then possibly that it is. -/
inductive Opening : Bool → List Phase → Prop
  | failed : Opening false []
  | waiting : Opening true [.notReady]
  | ready : Opening true [.notReady, .ready]

/-- The phases announced in a generation, and the phase of the queue.  That a
job is in flight is never announced, so the editor was told ready then. -/
inductive Stage : Generation → Phase → Prop
  | waiting : Stage ⟨true, [.notReady]⟩ .notReady
  | ready : Stage ⟨true, [.notReady, .ready]⟩ .ready
  | busy : Stage ⟨true, [.notReady, .ready]⟩ .busy
  | gone {started : Bool} {opening exits : List Phase} (opens : Opening started opening)
      (all : ∀ phase ∈ exits, phase = .exited) :
      Stage ⟨started, opening ++ exits ++ [.exited]⟩ .exited

/-- The announcements are an opening and then ends of the compiler.  An end may
be announced several times, since a compiler can be given up and then end. -/
def Generation.Orderly (generation : Generation) : Prop :=
  ∃ opening exits, Opening generation.started opening ∧ (∀ phase ∈ exits, phase = .exited) ∧
    generation.announced = opening ++ exits

/-- What an operation does to the phase, and the marks it leaves, given how
many launches were attempted before. -/
inductive Shift (attempts : Nat) : Phase → List Mark → Phase → Prop
  | still (phase : Phase) : Shift attempts phase [] phase
  | readied (begun : 1 ≤ attempts) : Shift attempts .notReady [.announced .ready] .ready
  | freed : Shift attempts .busy [] .ready
  | taken : Shift attempts .ready [] .busy
  | gone {phase : Phase} (begun : 1 ≤ attempts ∨ phase = .ready) :
      Shift attempts phase [.announced .exited] .exited
  | launched (phase : Phase) :
      Shift attempts phase [.launched true, .announced .notReady] .notReady
  | failed (phase : Phase) :
      Shift attempts phase [.launched false, .announced .exited] .exited

/-! ## Operations of the supervisor -/

namespace Supervisor

open Effect

variable (s : Supervisor) (verdict : Verdict)

/-- Between them two states of the supervisor and the effects make a shift. -/
def Shifts (done : Supervisor × List Effect) : Prop :=
  Shift s.generation s.jobs.phase (marks done.2) done.1.jobs.phase

theorem shifts_of_silent {done : Supervisor × List Effect} (silent : marks done.2 = [])
    (same : done.1.jobs.phase = s.jobs.phase) : s.Shifts done := by
  rw [Shifts, silent, same]
  exact .still _

@[simp] theorem marks_resolved (told : List Resolution) : marks (told.map .resolved) = [] :=
  filterMap_map_eq_nil mark? .resolved (fun _ => rfl) _

@[simp] theorem marks_published (publications : List Publication) :
    marks (publications.map .published) = [] :=
  filterMap_map_eq_nil mark? .published (fun _ => rfl) _

@[simp] theorem marks_terminated (channels : List Nat) : marks (channels.map .terminated) = [] :=
  filterMap_map_eq_nil mark? .terminated (fun _ => rfl) _

@[simp] theorem marks_released (channels : List Nat) : marks (channels.map .released) = [] :=
  filterMap_map_eq_nil mark? .released (fun _ => rfl) _

@[simp] theorem marks_offered (channels : List Nat) (job : Job) (accepted : Bool) :
    marks (channels.map (.dispatched · job accepted)) = [] :=
  filterMap_map_eq_nil mark? (.dispatched · job accepted) (fun _ => rfl) _

@[simp] theorem marks_compilerGone : marks s.compilerGone.2 = [.announced .exited] := by
  simp [compilerGone, JobQueue.exit, JobQueue.abandon]

/-- A launch that finds no jobs to lose. -/
theorem start_shift (settings : Settings) (fresh : s.jobs.phase = .notReady) (attempts : Nat)
    (phase : Phase) : Shift attempts phase (marks (s.start verdict settings).2)
      (s.start verdict settings).1.jobs.phase := by
  cases launched : verdict.launch settings.compiler with
  | none =>
      simp only [start, launched, announce, fresh]
      exact .launched phase
  | some cause =>
      simpa [start, launched] using .failed phase

theorem restart_shifts (settings : Settings) : s.Shifts (s.restart verdict settings) := by
  let reset := { s with channel := none, jobs := s.jobs.restart.jobs }
  have started := reset.withdraw.1.start_shift verdict settings rfl s.generation s.jobs.phase
  have same : marks (s.restart verdict settings).2 =
      marks (reset.withdraw.1.start verdict settings).2 := by
    simp [restart, reset, withdraw, apply_ite marks]
  rw [Shifts, same]
  exact started

theorem absorb_silent (job : Job) (outcome : Outcome) :
    marks (s.absorb job outcome).2 = [] ∧ (s.absorb job outcome).1.jobs = s.jobs := by
  cases outcome with
  | ok answer =>
      by_cases reports : job.kind.reports = true
      · simp only [absorb, if_pos reports]
        cases Report.ofAnswer answer with
        | ok report => exact ⟨marks_published _, rfl⟩
        | error error => exact ⟨rfl, rfl⟩
      · simp only [absorb, if_neg reports]
        exact ⟨rfl, trivial⟩
  | error error => cases error <;> exact ⟨rfl, rfl⟩

/-- That a job is done is not announced. -/
theorem conclude_shifts (id : Nat) (outcome : Outcome) : s.Shifts (s.conclude id outcome) := by
  cases completed : s.jobs.complete id outcome with
  | none =>
      simp only [conclude, completed]
      exact s.shifts_of_silent rfl rfl
  | some done =>
      rcases (s.jobs.complete_eq_some_iff id outcome done).mp completed with ⟨_, _, _, rfl⟩
      simp only [conclude, completed]
      have absorbed := fun jobs job => absorb_silent { s with jobs := jobs } job outcome
      rw [Shifts, marks_append, marks_resolved, (absorbed _ _).1, (absorbed _ _).2]
      by_cases busy : s.jobs.phase = .busy
      · simp only [busy, if_true]
        exact .freed
      · simp only [if_neg busy]
        exact .still _

theorem onCompilerEvent_shifts (begun : 1 ≤ s.generation) {event : CompilerEvent}
    (relayed : ∀ phase, event ≠ .notification (.status phase)) :
    s.Shifts (s.onCompilerEvent event) := by
  cases event with
  | ready =>
      simp only [onCompilerEvent, JobQueue.markReady]
      by_cases waiting : s.jobs.phase = .notReady
      · simp only [if_true, Shifts, waiting]
        exact .readied begun
      · simp only [if_neg waiting, Bool.false_eq_true, if_false]
        by_cases gone : s.jobs.phase = .exited
        · rw [if_pos gone]
          exact s.shifts_of_silent rfl rfl
        · rw [if_neg gone]
          exact s.shifts_of_silent rfl rfl
  | response id outcome => exact s.conclude_shifts id outcome
  | unmatched reason =>
      cases flying : s.jobs.inFlightId with
      | none =>
          simp only [onCompilerEvent, flying]
          exact s.shifts_of_silent rfl rfl
      | some id =>
          simp only [onCompilerEvent, flying]
          exact s.conclude_shifts id (.error (.garbled reason))
  | notification notice =>
      refine s.shifts_of_silent ?_ rfl
      cases notice with
      | status phase => exact absurd rfl (relayed phase)
      | _ => rfl
  | exited =>
      have told : marks (s.onCompilerEvent .exited).2 = [.announced .exited] := by
        cases farewell : s.closing <;> simp [onCompilerEvent, farewell]
      rw [Shifts, told]
      exact .gone (Or.inl begun)

theorem handle_shifts (fresh : s.generation = 0 → s.jobs.phase = .notReady) {event : Event}
    (stamped : ∀ said, event ≠ .compiler 0 said)
    (relayed : ∀ generation phase, event ≠ .compiler generation (.notification (.status phase))) :
    s.Shifts (s.handle verdict event) := by
  cases event with
  | launch settings =>
      simp only [handle]
      by_cases first : s.generation = 0
      · rw [if_pos first]
        exact s.start_shift verdict settings (fresh first) _ _
      · rw [if_neg first]
        exact s.shifts_of_silent rfl rfl
  | restart settings => exact s.restart_shifts verdict settings
  | submit request waiter =>
      exact s.shifts_of_silent (marks_resolved _) (s.jobs.submit_frame request waiter).1
  | compiler generation event =>
      simp only [handle]
      by_cases current : generation = s.generation
      · rw [if_pos current]
        have begun : 1 ≤ s.generation :=
          Nat.one_le_iff_ne_zero.mpr fun none => stamped event (current.trans none ▸ rfl)
        exact s.onCompilerEvent_shifts begun fun phase same =>
          relayed generation phase (same ▸ rfl)
      · rw [if_neg current]
        exact s.shifts_of_silent rfl rfl
  | status waiter => exact s.shifts_of_silent rfl rfl
  | stop => exact s.shifts_of_silent rfl rfl

/-- That a job is handed over is not announced either. -/
theorem pump_shift (attempts : Nat) :
    Shift attempts s.jobs.phase (marks (s.pump verdict).2) (s.pump verdict).1.jobs.phase := by
  cases driven : s.jobs.drive with
  | none =>
      simp only [pump, driven]
      exact .still _
  | some next =>
      rcases next with ⟨job, jobs⟩
      rcases (s.jobs.drive_eq_some_iff jobs job).mp driven with ⟨_, _, ready, _, _, _, rfl⟩
      simp only [pump, driven, ready]
      cases refused : s.refusal? verdict job with
      | some cause =>
          simpa using .gone (Or.inr rfl)
      | none =>
          cases job.kind.category with
          | workspace => simpa [withdraw] using .taken
          | _ => simpa using .taken

end Supervisor

/-! ## The course of a run -/

/-- All that was announced, generation by generation. -/
def Generation.spoken (told : List Generation) : List Phase :=
  told.reverse.flatMap (·.announced)

theorem Stage.in_order {generation : Generation} {phase : Phase} (stage : Stage generation phase) :
    generation.Orderly := by
  have none : ∀ phase ∈ ([] : List Phase), phase = .exited :=
    fun _ listed => absurd listed List.not_mem_nil
  cases stage with
  | waiting => exact ⟨[.notReady], [], .waiting, none, rfl⟩
  | ready => exact ⟨[.notReady, .ready], [], .ready, none, rfl⟩
  | busy => exact ⟨[.notReady, .ready], [], .ready, none, rfl⟩
  | @gone started opening exits opens all =>
      refine ⟨opening, exits ++ [.exited], opens, ?_, List.append_assoc _ _ _⟩
      intro phase listed
      rcases List.mem_append.mp listed with earlier | last
      · exact all phase earlier
      · exact List.mem_singleton.mp last

/-- A launch that failed is announced like the end of a compiler. -/
theorem Stage.failed : Stage ⟨false, [.exited]⟩ .exited :=
  @Stage.gone false [] [] .failed fun _ listed => absurd listed List.not_mem_nil

/-- That the compiler is gone is announced again and again. -/
theorem Stage.gone_of_orderly {generation : Generation} (orderly : generation.Orderly) :
    Stage { generation with announced := generation.announced ++ [.exited] } .exited := by
  rcases orderly with ⟨opening, exits, opens, all, same⟩
  rw [same]
  exact .gone opens all

namespace Generation

theorem spoken_cons (generation : Generation) (before : List Generation) :
    spoken (generation :: before) = spoken before ++ generation.announced := by
  rw [spoken, List.reverse_cons, List.flatMap_append, List.flatMap_singleton]
  rfl

end Generation

/-- An operation takes the current generation on to its next stage. -/
theorem Stage.shift {generation : Generation} {before : List Generation} {phase phase' : Phase}
    {attempts : Nat} {marks : List Mark} (stage : Stage generation phase)
    (shift : Shift attempts phase marks phase') :
    ∃ next rest, marks.foldl Generation.note (generation :: before) = next :: rest ∧
      Stage next phase' ∧ (∀ other ∈ rest, other = generation ∨ other ∈ before) ∧
      Generation.spoken (next :: rest) =
        Generation.spoken (generation :: before) ++ marks.filterMap Mark.phase? := by
  have old : ∀ other ∈ before, other = generation ∨ other ∈ before := fun _ listed => Or.inr listed
  have all : ∀ other ∈ generation :: before, other = generation ∨ other ∈ before :=
    fun _ listed => List.mem_cons.mp listed
  have quiet := (List.append_nil (Generation.spoken (generation :: before))).symm
  cases shift with
  | still => exact ⟨generation, before, rfl, stage, old, quiet⟩
  | readied =>
      cases stage
      refine ⟨_, before, rfl, .ready, old, ?_⟩
      rw [Generation.spoken_cons, Generation.spoken_cons, List.append_assoc]
      rfl
  | freed =>
      cases stage
      exact ⟨_, before, rfl, .ready, old, quiet⟩
  | taken =>
      cases stage
      exact ⟨_, before, rfl, .busy, old, quiet⟩
  | gone =>
      refine ⟨_, before, rfl, .gone_of_orderly stage.in_order, old, ?_⟩
      rw [Generation.spoken_cons, Generation.spoken_cons, List.append_assoc]
      rfl
  | launched =>
      exact ⟨_, generation :: before, rfl, .waiting, all, Generation.spoken_cons _ _⟩
  | failed =>
      exact ⟨_, generation :: before, rfl, .failed, all, Generation.spoken_cons _ _⟩

/-- What is known of a run from what was announced in it.  The phase is that of
the queue after the run, and it is settled by the announcements but for one
choice. -/
structure Chronicle (told : List Generation) (phase : Phase) (spoken : List Phase) : Prop where
  /-- Before the first launch the queue waits for it, and later the current
  generation is at a stage. -/
  stage : match told with
    | [] => phase = .notReady
    | generation :: _ => Stage generation phase
  orderly : ∀ generation ∈ told, generation.Orderly
  spoken : spoken = Generation.spoken told

theorem Chronicle.shift {told : List Generation} {phase phase' : Phase} {spoken : List Phase}
    {marks : List Mark} (chronicle : Chronicle told phase spoken)
    (shift : Shift told.length phase marks phase') :
    Chronicle (marks.foldl Generation.note told) phase'
      (spoken ++ marks.filterMap Mark.phase?) := by
  rcases chronicle with ⟨stage, orderly, rfl⟩
  cases told with
  | nil =>
      -- No other phase than the first is possible yet, so only a launch speaks.
      cases shift with
      | still => exact ⟨stage, orderly, rfl⟩
      | launched =>
          have begun := Stage.waiting
          exact ⟨begun, fun _ listed => List.mem_singleton.mp listed ▸ begun.in_order, rfl⟩
      | failed =>
          have lost := Stage.failed
          exact ⟨lost, fun _ listed => List.mem_singleton.mp listed ▸ lost.in_order, rfl⟩
      | readied begun => cases begun
      | freed => cases stage
      | taken => cases stage
      | gone begun =>
          rcases begun with later | ready
          · cases later
          · cases ready.symm.trans stage
  | cons generation before =>
      rcases @Stage.shift _ before _ _ _ _ stage shift with
        ⟨next, rest, made, reached, others, said⟩
      rw [made]
      refine ⟨reached, ?_, said.symm⟩
      intro other listed
      rcases List.mem_cons.mp listed with rfl | behind
      · exact reached.in_order
      · rcases others other behind with rfl | earlier
        · exact orderly other List.mem_cons_self
        · exact orderly other (List.mem_cons_of_mem _ earlier)

/-! ## Runs -/

open Effect

theorem generations_append (first second : List Effect) :
    generations (first ++ second) = (marks second).foldl Generation.note (generations first) := by
  rw [generations, marks_append, List.foldl_append]
  rfl

@[simp] theorem statuses_append (first second : List Effect) :
    statuses (first ++ second) = statuses first ++ (marks second).filterMap Mark.phase? := by
  rw [← statuses_eq]
  exact List.filterMap_append

theorem launches_started (effects : List Effect) :
    (launches effects).map (·.started) = (marks effects).filterMap Mark.started? := by
  rw [launches, marks, List.map_filterMap, List.filterMap_filterMap]
  congr 1
  funext effect
  cases effect with
  | notified notice => cases notice <;> rfl
  | _ => rfl

theorem started_foldl_note (marks : List Mark) (told : List Generation) :
    (marks.foldl Generation.note told).reverse.map (·.started) =
      told.reverse.map (·.started) ++ marks.filterMap Mark.started? := by
  induction marks generalizing told with
  | nil => exact (List.append_nil _).symm
  | cons mark rest inductionHypothesis =>
      rw [List.foldl_cons, inductionHypothesis]
      cases mark with
      | launched started =>
          rw [Generation.note, List.reverse_cons, List.map_append, List.append_assoc]
          rfl
      | announced phase =>
          cases told with
          | nil => rfl
          | cons current before =>
              rw [Generation.note, List.reverse_cons, List.reverse_cons, List.map_append,
                List.map_append]
              rfl

/-- The generations are those of the launches. -/
theorem started_generations (effects : List Effect) :
    (generations effects).reverse.map (·.started) = (launches effects).map (·.started) := by
  rw [generations, started_foldl_note, launches_started]
  rfl

theorem Moment.generation_eq_length (events : List (Verdict × Event)) :
    (Supervisor.initial.run events).1.generation =
      (launches (Supervisor.initial.run events).2).length := by
  have numbered := congrArg List.length (generations_of_launches events)
  rw [List.length_map, List.length_range'] at numbered
  exact numbered.symm

theorem length_generations (events : List (Verdict × Event)) :
    (generations (Supervisor.initial.run events).2).length =
      (Supervisor.initial.run events).1.generation := by
  have same := congrArg List.length (started_generations (Supervisor.initial.run events).2)
  rw [List.length_map, List.length_reverse, List.length_map] at same
  rw [same, Moment.generation_eq_length]

/-- Compilers speak after they were launched, and say nothing that only the
supervisor can say. -/
structure Credible (events : List (Verdict × Event)) : Prop where
  stamped : ∀ verdict said, (verdict, Event.compiler 0 said) ∉ events
  relayed : ∀ verdict generation phase,
    (verdict, Event.compiler generation (.notification (.status phase))) ∉ events

/-- No line of a compiler is taken for an announcement. -/
theorem CompilerEvent.ofLine_ne_status (line : List Char) (phase : Phase) :
    CompilerEvent.ofLine line ≠ some (.notification (.status phase)) := by
  have relayed : ∀ message : Message, message.toEvent ≠ .notification (.status phase) := by
    intro message same
    cases message with
    | notification method params =>
        have told : Notice.ofCompiler method params = .status phase :=
          CompilerEvent.notification.inj same
        unfold Notice.ofCompiler at told
        split at told <;> cases told
    | _ => cases same
  intro same
  simp only [CompilerEvent.ofLine] at same
  split at same
  · cases same
  · split at same
    · exact relayed _ (Option.some.inj same)
    · split at same <;> cases same

theorem Credible.mono {before events : List (Verdict × Event)} (credible : Credible events)
    (inside : before ⊆ events) : Credible before where
  stamped verdict said listed := credible.stamped verdict said (inside listed)
  relayed verdict generation phase listed :=
    credible.relayed verdict generation phase (inside listed)

namespace Moment

theorem marks_unhandled (event : Event) : marks event.unhandled = [] := by
  cases event with
  | submit request waiter => cases waiter <;> rfl
  | _ => rfl

theorem marks_halt (s : Supervisor) : marks s.halt.2 = [] := by
  simp [Supervisor.halt]

/-- What is known of a run, and of the phase until the supervisor ends. -/
structure Recorded (s : Supervisor) (effects : List Effect) : Prop where
  chronicle : s.halted = false → Chronicle (generations effects) s.jobs.phase (statuses effects)
  orderly : ∀ generation ∈ generations effects, generation.Orderly
  spoken : statuses effects = Generation.spoken (generations effects)

theorem Recorded.silent {s next : Supervisor} {effects more : List Effect}
    (recorded : Recorded s effects) (silent : marks more = []) (ended : next.halted = true) :
    Recorded next (effects ++ more) where
  chronicle running := absurd (ended.symm.trans running) (nomatch ·)
  orderly := by
    rw [generations_append, silent]
    exact recorded.orderly
  spoken := by
    rw [generations_append, statuses_append, silent]
    exact (List.append_nil _).trans recorded.spoken

theorem recorded {events : List (Verdict × Event)} (credible : Credible events) :
    Recorded (Supervisor.initial.run events).1 (Supervisor.initial.run events).2 := by
  revert credible
  refine induction (P := fun events s => Credible events →
    Recorded s (Supervisor.initial.run events).2) ?_ ?_ events
  · intro _
    exact ⟨fun _ => ⟨rfl, fun _ listed => absurd listed List.not_mem_nil, rfl⟩,
      fun _ listed => absurd listed List.not_mem_nil, rfl⟩
  · intro moment inductionHypothesis credible
    have before := inductionHypothesis (credible.mono (List.subset_append_left _ _))
    rw [run_through]
    cases running : moment.state.halted with
    | true =>
        have idle := moment.state.step_of_halted running moment.verdict moment.event
        refine before.silent ?_ ?_
        · rw [effects, idle]
          exact marks_unhandled _
        · rw [next, idle]
          exact running
    | false =>
        by_cases last : moment.event = .stop
        · have ended := moment.state.step_stop running moment.verdict
          refine before.silent ?_ ?_
          · rw [effects, last, ended]
            exact marks_halt _
          · rw [next, last, ended]
            rfl
        · have chronicle := before.chronicle running
          have attempts : (generations (Supervisor.initial.run moment.before).2).length =
              moment.state.generation := length_generations moment.before
          have fresh : moment.state.generation = 0 → moment.state.jobs.phase = .notReady := by
            -- The chronicle has no generation before the first launch either.
            intro first
            have none := List.eq_nil_of_length_eq_zero (attempts.trans first)
            have stage := chronicle.stage
            rw [none] at stage
            exact stage
          have here : (moment.verdict, moment.event) ∈ moment.through := moment.in_through.mem
          have handled := moment.state.handle_shifts moment.verdict fresh
            (fun said same => credible.stamped moment.verdict said (same ▸ here))
            (fun generation phase same =>
              credible.relayed moment.verdict generation phase (same ▸ here))
          rw [Supervisor.Shifts, ← attempts] at handled
          have middle := chronicle.shift handled
          have after := middle.shift (Supervisor.pump_shift _ moment.verdict _)
          have stepped := moment.state.step_of_ne_stop running moment.verdict last
          have whole : Chronicle
              (generations ((Supervisor.initial.run moment.before).2 ++ moment.effects))
              moment.next.jobs.phase
              (statuses ((Supervisor.initial.run moment.before).2 ++ moment.effects)) := by
            rw [effects, next, stepped, ← List.append_assoc]
            simpa only [generations_append, statuses_append] using after
          exact ⟨fun _ => whole, whole.orderly, whole.spoken⟩

end Moment

/-! ## What the editor knows -/

/-- The last announcement is the phase, or the queue is busy behind it. -/
theorem Stage.last {generation : Generation} {phase : Phase} (stage : Stage generation phase) :
    ∃ last, generation.announced.getLast? = some last ∧
      (phase = last ∨ last = .ready ∧ phase = .busy) := by
  cases stage with
  | waiting => exact ⟨.notReady, rfl, Or.inl rfl⟩
  | ready => exact ⟨.ready, rfl, Or.inl rfl⟩
  | busy => exact ⟨.ready, rfl, Or.inr ⟨rfl, rfl⟩⟩
  | gone => exact ⟨.exited, List.getLast?_concat, Or.inl rfl⟩

theorem Opening.present {started : Bool} {opening : List Phase} (opens : Opening started opening) :
    ∀ phase ∈ opening, phase = .notReady ∨ phase = .ready := by
  cases opens <;> decide

theorem Generation.Orderly.not_busy {generation : Generation} (orderly : generation.Orderly) :
    .busy ∉ generation.announced := by
  rcases orderly with ⟨opening, exits, opens, all, same⟩
  intro busy
  rw [same] at busy
  rcases List.mem_append.mp busy with early | late
  · rcases opens.present .busy early with impossible | impossible <;> cases impossible
  · cases all .busy late

/-- After the first end of a compiler there are only ends. -/
theorem Generation.Orderly.exited_of_append {started : Bool} {early late : List Phase}
    (orderly : Generation.Orderly ⟨started, early ++ late⟩) (gone : .exited ∈ early) :
    ∀ phase ∈ late, phase = .exited := by
  rcases orderly with ⟨opening, exits, opens, all, same⟩
  rcases List.append_eq_append_iff.mp same with ⟨rest, longer, _⟩ | ⟨rest, _, shorter⟩
  · have listed : .exited ∈ opening := longer ▸ List.mem_append_left _ gone
    rcases opens.present .exited listed with impossible | impossible <;> cases impossible
  · intro phase listed
    exact all phase (shorter ▸ List.mem_append_right _ listed)

/-- After the first launch only a restart leads to another one. -/
theorem Desk.Handles.restarts {verdict : Verdict} {desk after : Desk} {event : Event}
    {begun : List Launch} {told : List Resolution}
    (handled : Handles verdict desk event after begun told) (later : 1 ≤ desk.generation) :
    begun = [] ∨ ∃ settings, event = .restart settings := by
  cases handled with
  | launched _ first => omega
  | lost _ loss =>
      cases loss with
      | launchFailed first => omega
      | restarted => exact Or.inr ⟨_, rfl⟩
      | restartFailed => exact Or.inr ⟨_, rfl⟩
      | exited => exact Or.inl rfl
      | stopped => exact Or.inl rfl
  | _ => exact Or.inl rfl

namespace Moment

theorem restarts (moment : Moment) (later : 1 ≤ moment.state.generation) :
    launches moment.effects = [] ∨ ∃ settings, moment.event = .restart settings := by
  rcases moment.halves with ⟨told, lost, handled, _⟩
  exact handled.restarts later

theorem launches_of_unrestarted {before after : List (Verdict × Event)}
    (later : 1 ≤ (Supervisor.initial.run before).1.generation)
    (unrestarted : ∀ verdict settings, (verdict, Event.restart settings) ∉ after) :
    launches (Supervisor.initial.run (before ++ after)).2 =
      launches (Supervisor.initial.run before).2 := by
  induction after using List.reverseRecOn with
  | nil => rw [List.append_nil]
  | append_singleton middle entry inductionHypothesis =>
      have quiet := inductionHypothesis fun verdict settings listed =>
        unrestarted verdict settings (List.mem_append_left _ listed)
      let moment : Moment := ⟨before ++ middle, entry.1, entry.2⟩
      have reached : 1 ≤ moment.state.generation := by
        rw [generation_eq_length] at later
        rw [state, generation_eq_length, quiet]
        exact later
      rw [show before ++ (middle ++ [entry]) = moment.through from (List.append_assoc _ _ _).symm,
        run_through, launches_append]
      rcases moment.restarts reached with silent | ⟨settings, restarted⟩
      · rw [silent, List.append_nil]
        exact quiet
      · refine absurd (List.mem_append_right middle (List.mem_singleton.mpr ?_))
          (unrestarted entry.1 settings)
        exact Prod.ext rfl restarted.symm

end Moment

theorem Generation.foldl_note {marks : List Mark} (unlaunched : marks.filterMap Mark.started? = [])
    (current : Generation) (before : List Generation) :
    marks.foldl note (current :: before) =
      { current with announced := current.announced ++ marks.filterMap Mark.phase? } :: before := by
  induction marks generalizing current with
  | nil => rw [List.filterMap_nil, List.append_nil, List.foldl_nil]
  | cons mark rest inductionHypothesis =>
      cases mark with
      | launched started => cases unlaunched
      | announced phase =>
          rw [List.foldl_cons, note, inductionHypothesis unlaunched, List.append_assoc]
          rfl

/-- What the editor is told of the phase in a run.  Before the first launch
nothing is told, and what is told belongs to a launch from then on. -/
structure Announced (events : List (Verdict × Event)) : Prop where
  /-- Between any two events from the first launch to the end, the phase is the
  one that was announced last, or the queue is busy and was announced ready. -/
  agrees : ∀ before, before <+: events →
    let ran := Supervisor.initial.run before
    ran.1.halted = false → 1 ≤ ran.1.generation →
      ∃ last, (statuses ran.2).getLast? = some last ∧
        (ran.1.jobs.phase = last ∨ last = .ready ∧ ran.1.jobs.phase = .busy)
  /-- Every announcement belongs to a generation, and these are the launches. -/
  spoken : statuses (Supervisor.initial.run events).2 =
    Generation.spoken (generations (Supervisor.initial.run events).2)
  launched : (generations (Supervisor.initial.run events).2).reverse.map (·.started) =
    (launches (Supervisor.initial.run events).2).map (·.started)
  /-- In each of them a compiler that was started is announced as not ready, and
  then at most once as ready; after that only ends are announced. -/
  orderly : ∀ generation ∈ generations (Supervisor.initial.run events).2, generation.Orderly
  notBusy : .busy ∉ statuses (Supervisor.initial.run events).2
  /-- Once an end was announced, nothing else is until a restart. -/
  final : ∀ before after current others, before ++ after = events →
    generations (Supervisor.initial.run before).2 = current :: others →
      .exited ∈ current.announced →
        (∀ verdict settings, (verdict, Event.restart settings) ∉ after) →
          ∀ phase ∈ statuses ((Supervisor.initial.run before).1.run after).2, phase = .exited

/-- The editor knows the phase at any time, whatever compilers do. -/
theorem announced_of_credible {events : List (Verdict × Event)} (credible : Credible events) :
    Announced events := by
  have whole := Moment.recorded credible
  refine ⟨?_, whole.spoken, started_generations _, whole.orderly, ?_, ?_⟩
  · intro before inside ran running later
    have chronicle := (Moment.recorded (credible.mono inside.subset)).chronicle running
    have attempts : (generations ran.2).length = ran.1.generation := length_generations before
    have stage := chronicle.stage
    have spoken : statuses ran.2 = _ := chronicle.spoken
    cases told : generations ran.2 with
    | nil =>
        rw [told] at attempts
        cases attempts ▸ later
    | cons current others =>
        rw [told] at stage spoken
        rcases Stage.last stage with ⟨last, found, agreed⟩
        refine ⟨last, ?_, agreed⟩
        rw [spoken, Generation.spoken_cons, List.getLast?_append, found]
        rfl
  · rw [whole.spoken]
    intro busy
    rcases List.mem_flatMap.mp busy with ⟨generation, listed, said⟩
    exact (whole.orderly generation (List.mem_reverse.mp listed)).not_busy said
  · rintro before after current others rfl told gone unrestarted
    have later : 1 ≤ (Supervisor.initial.run before).1.generation := by
      rw [← length_generations, told]
      exact Nat.le_add_left 1 _
    -- Without a launch all that follows is added to the current generation,
    -- where it stands behind the first end.
    have unlaunched := Moment.launches_of_unrestarted later unrestarted
    have orderly := whole.orderly
    rw [Supervisor.run_append] at unlaunched orderly
    rw [launches_append, List.append_right_eq_self] at unlaunched
    have silent := launches_started ((Supervisor.initial.run before).1.run after).2
    rw [unlaunched] at silent
    rw [generations_append, told, Generation.foldl_note silent.symm] at orderly
    rw [statuses_eq]
    exact (orderly _ List.mem_cons_self).exited_of_append gone

/-- A compiler does a job and ends, another one does not start, and the third
one ends while it is given a job. -/
theorem announced_of_replacement :
    let willing : Verdict := ⟨fun _ => none, fun _ => none⟩
    let unwilling : Verdict := ⟨fun _ => some ⟨["no such file"]⟩, fun _ => some ⟨["broken pipe"]⟩⟩
    let events : List (Verdict × Event) := [(willing, .launch {}), (willing, .compiler 1 .ready),
      (willing, .submit .internalReady none), (willing, .compiler 1 (.response 1 (.ok .null))),
      (willing, .compiler 1 .exited), (willing, .compiler 1 .exited), (unwilling, .restart {}),
      (willing, .restart {}), (willing, .compiler 3 .ready),
      (unwilling, .submit .internalReady none), (willing, .compiler 3 .ready)]
    Credible events ∧ Announced events ∧
      (generations (Supervisor.initial.run events).2).reverse.map (·.announced) =
        [[.notReady, .ready, .exited, .exited], [.exited], [.notReady, .ready, .exited]] := by
  intro willing unwilling events
  have credible : Credible events := by
    constructor
    · intro verdict said member
      simp [events] at member
    · intro verdict generation phase member
      simp [events] at member
  exact ⟨credible, announced_of_credible credible, by decide +kernel⟩

end CompilerRelay
