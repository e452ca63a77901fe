import CompilerRelay.Proofs.Supervisor.Dispatch

/-!
# Which compiler is held

At most one compiler is held.  It comes with a launch that succeeds, and it
departs when it is told to end or let go, which happens at four places of the
supervisor.  `Passes` follows it through the effects: a launch is attempted
only while no compiler is held, and only the one that is held departs.  The
relation composes, so each operation is treated once, and it holds of every
run, whatever compilers say.

That a compiler is held exactly while the queue has not lost it depends on the
stamps of events.  Generation 0 is no compiler's, and an announcement or an end
stamped with it would count for the compiler that is launched next.  A run is
`Stamped` if every such event carries the generation of a launch.
-/

namespace CompilerRelay

namespace Effect

/-- The compiler that is told to end or let go. -/
def departure? : Effect → Option Nat
  | terminated generation => some generation
  | released generation => some generation
  | _ => none

def departures (effects : List Effect) : List Nat :=
  effects.filterMap departure?

/-- Whether a launch is attempted or a compiler departs. -/
def concernsCompiler (effect : Effect) : Bool :=
  effect.launch?.isSome || effect.departure?.isSome

attribute [simp] departure? concernsCompiler

theorem idle_iff {effect : Effect} :
    effect.concernsCompiler = false ↔ effect.launch? = none ∧ effect.departure? = none := by
  rw [concernsCompiler, Bool.or_eq_false_iff, Option.isSome_eq_false_iff,
    Option.isSome_eq_false_iff, Option.isNone_iff_eq_none, Option.isNone_iff_eq_none]

theorem launch?_of_departure? {effect : Effect} {generation : Nat}
    (departs : effect.departure? = some generation) : effect.launch? = none := by
  cases effect with
  | terminated => rfl
  | released => rfl
  | _ => cases departs

@[simp] theorem departures_append (first second : List Effect) :
    departures (first ++ second) = departures first ++ departures second :=
  List.filterMap_append

theorem starts_cons_of_unlaunched {effect : Effect} (unlaunched : effect.launch? = none)
    (rest : List Effect) : starts (effect :: rest) = starts rest := by
  rw [starts, launches, List.filterMap_cons_none unlaunched]
  rfl

end Effect

open Effect

/-- The effects take the compiler that is held before them to the one that is
held after them, and a compiler departs only as it may. -/
inductive Passes (may : Effect → Prop) : Option Nat → List Effect → Option Nat → Prop
  | nil (held : Option Nat) : Passes may held [] held
  | started {generation : Nat} {settings : LaunchSettings} {rest : List Effect}
      {after : Option Nat} (later : Passes may (some generation) rest after) :
      Passes may none (launched generation settings true :: rest) after
  | failed {generation : Nat} {settings : LaunchSettings} {rest : List Effect}
      {after : Option Nat} (later : Passes may none rest after) :
      Passes may none (launched generation settings false :: rest) after
  | departed {generation : Nat} {effect : Effect} {rest : List Effect} {after : Option Nat}
      (departs : effect.departure? = some generation) (allowed : may effect)
      (later : Passes may none rest after) : Passes may (some generation) (effect :: rest) after
  | other {held : Option Nat} {effect : Effect} {rest : List Effect} {after : Option Nat}
      (idle : effect.concernsCompiler = false) (later : Passes may held rest after) :
      Passes may held (effect :: rest) after

namespace Passes

variable {may : Effect → Prop} {before middle after : Option Nat} {early late : List Effect}

theorem append (first : Passes may before early middle) (second : Passes may middle late after) :
    Passes may before (early ++ late) after := by
  induction first with
  | nil => exact second
  | started _ inductionHypothesis => exact .started (inductionHypothesis second)
  | failed _ inductionHypothesis => exact .failed (inductionHypothesis second)
  | departed departs allowed _ inductionHypothesis =>
      exact .departed departs allowed (inductionHypothesis second)
  | other idle _ inductionHypothesis => exact .other idle (inductionHypothesis second)

/-- Wherever the effects are cut, some compiler or none is held there. -/
theorem split (whole : Passes may before (early ++ late) after) :
    ∃ middle, Passes may before early middle ∧ Passes may middle late after := by
  induction early generalizing before with
  | nil => exact ⟨before, .nil before, whole⟩
  | cons effect rest inductionHypothesis =>
      cases whole with
      | started later =>
          rcases inductionHypothesis later with ⟨middle, first, second⟩
          exact ⟨middle, .started first, second⟩
      | failed later =>
          rcases inductionHypothesis later with ⟨middle, first, second⟩
          exact ⟨middle, .failed first, second⟩
      | departed departs allowed later =>
          rcases inductionHypothesis later with ⟨middle, first, second⟩
          exact ⟨middle, .departed departs allowed first, second⟩
      | other idle later =>
          rcases inductionHypothesis later with ⟨middle, first, second⟩
          exact ⟨middle, .other idle first, second⟩

theorem mono {more : Effect → Prop} (passes : Passes may before early after)
    (implies : ∀ effect, may effect → more effect) : Passes more before early after := by
  induction passes with
  | nil held => exact .nil held
  | started _ inductionHypothesis => exact .started inductionHypothesis
  | failed _ inductionHypothesis => exact .failed inductionHypothesis
  | departed departs allowed _ inductionHypothesis =>
      exact .departed departs (implies _ allowed) inductionHypothesis
  | other idle _ inductionHypothesis => exact .other idle inductionHypothesis

/-- Effects that concern no compiler. -/
theorem of_idle (held : Option Nat) {effects : List Effect}
    (idle : effects.filter concernsCompiler = []) : Passes may held effects held := by
  induction effects with
  | nil => exact .nil held
  | cons effect rest inductionHypothesis =>
      have each := List.filter_eq_nil_iff.mp idle
      refine .other (Bool.eq_false_iff.mpr (each effect List.mem_cons_self)) ?_
      exact inductionHypothesis (List.filter_eq_nil_iff.mpr fun other member =>
        each other (List.mem_cons_of_mem effect member))

/-- The compiler that is held departs, if there is one. -/
theorem of_departing (held : Option Nat) (make : Nat → Effect)
    (departs : ∀ generation, (make generation).departure? = some generation)
    (allowed : ∀ generation, held = some generation → may (make generation)) :
    Passes may held (held.toList.map make) none := by
  cases held with
  | none => exact .nil none
  | some generation => exact .departed (departs generation) (allowed generation rfl) (.nil none)

theorem may_of_mem (passes : Passes may before early after) {effect : Effect}
    (member : effect ∈ early) {generation : Nat} (departs : effect.departure? = some generation) :
    may effect := by
  induction passes with
  | nil => cases member
  | started _ inductionHypothesis =>
      rcases List.mem_cons.mp member with same | later
      · subst same
        cases departs
      · exact inductionHypothesis later
  | failed _ inductionHypothesis =>
      rcases List.mem_cons.mp member with same | later
      · subst same
        cases departs
      · exact inductionHypothesis later
  | departed _ allowed _ inductionHypothesis =>
      rcases List.mem_cons.mp member with same | later
      · exact same ▸ allowed
      · exact inductionHypothesis later
  | other idle _ inductionHypothesis =>
      rcases List.mem_cons.mp member with same | later
      · rw [same, (idle_iff.mp idle).2] at departs
        cases departs
      · exact inductionHypothesis later

/-- What is held and what is started is what departs, in the same order, and
behind it what is held then. -/
theorem starts_eq (passes : Passes may before early after) :
    before.toList ++ starts early = departures early ++ after.toList := by
  induction passes with
  | nil held => exact List.append_nil _
  | started _ inductionHypothesis => exact inductionHypothesis
  | failed _ inductionHypothesis => exact inductionHypothesis
  | @departed generation effect rest after departs allowed later inductionHypothesis =>
      rw [starts_cons_of_unlaunched (launch?_of_departure? departs), departures,
        List.filterMap_cons_some departs]
      exact congrArg (List.cons generation) inductionHypothesis
  | @other held effect rest after idle later inductionHypothesis =>
      rw [starts_cons_of_unlaunched (idle_iff.mp idle).1, departures,
        List.filterMap_cons_none (idle_iff.mp idle).2]
      exact inductionHypothesis

/-- When a launch is attempted, every compiler that was started has departed. -/
theorem vacant {generation : Nat} {settings : LaunchSettings} {started : Bool}
    (whole : Passes may none (early ++ launched generation settings started :: late) after) :
    starts early = departures early := by
  rcases whole.split with ⟨middle, first, second⟩
  have free : middle = none := by
    cases second with
    | started => rfl
    | failed => rfl
    | departed departs => cases departs
    | other idle => cases idle
  have law := first.starts_eq
  rw [free] at law
  exact law.trans (List.append_nil _)

/-- Between its start and the next attempt to launch a compiler departs once,
and no other one does. -/
theorem departures_between {between : List Effect} {generation next : Nat}
    {settings settings' : LaunchSettings} {started : Bool}
    (whole : Passes may none (early ++ launched generation settings true ::
      (between ++ launched next settings' started :: late)) after)
    (unlaunched : launches between = []) : departures between = [generation] := by
  have former : starts early = departures early := whole.vacant
  rw [← List.cons_append, ← List.append_assoc] at whole
  have latter := whole.vacant
  rw [starts_append, departures_append, former] at latter
  have both : starts (launched generation settings true :: between) = departures between :=
    List.append_cancel_left latter
  have alone : starts (launched generation settings true :: between) =
      generation :: starts between := rfl
  have none_started : starts between = [] := by
    rw [starts, unlaunched]
    rfl
  rw [alone, none_started] at both
  exact both.symm

end Passes

/-! ## What each operation does with the compiler -/

/-- Why a compiler departs: everything ends or it is to be replaced, or it
ended or did not take a job. -/
def Dismisses (event : Event) (handed : List Handover) : Effect → Prop
  | .terminated _ => event = .stop ∨ ∃ settings, event = .restart settings
  | .released generation => event = .compiler generation .exited ∨
      ∃ job, (⟨generation, job, false⟩ : Handover) ∈ handed
  | _ => False

namespace Supervisor

section

variable {may : Effect → Prop} (s : Supervisor)

theorem compilerGone_passes
    (allowed : ∀ generation, s.channel = some generation → may (.released generation)) :
    Passes may s.channel s.compilerGone.2 none := by
  have gone : Passes may s.channel (s.channel.toList.map .released) none :=
    Passes.of_departing s.channel .released (fun _ => rfl) allowed
  have told : Passes may none (s.jobs.exit.resolved.map .resolved) none :=
    Passes.of_idle none (by simp)
  exact (gone.append told).append (Passes.of_idle none rfl)

theorem start_passes (free : s.channel = none) (verdict : Verdict) (settings : Settings) :
    Passes may none (s.start verdict settings).2 (s.start verdict settings).1.channel := by
  cases launched : verdict.launch settings.compiler with
  | none =>
      simp only [start, launched]
      exact .started (.other rfl (.nil _))
  | some cause =>
      let begun := { s with
        generation := s.generation + 1
        closing := false
        source := settings.diagnosticsSource }
      have alone : begun.channel = none := free
      have gone : Passes may begun.channel begun.compilerGone.2 none := by
        refine begun.compilerGone_passes fun generation held => ?_
        cases held.symm.trans alone
      simp only [start, launched]
      exact .failed (.other rfl (.other rfl
        ((congrArg (Passes may · begun.compilerGone.2 none) alone).mp gone)))

theorem restart_passes (verdict : Verdict) (settings : Settings)
    (allowed : ∀ generation, s.channel = some generation → may (.terminated generation)) :
    Passes may s.channel (s.restart verdict settings).2
      (s.restart verdict settings).1.channel := by
  let reset := { s with channel := none, jobs := s.jobs.restart.jobs }
  have gone : Passes may s.channel (s.channel.toList.map .terminated) none :=
    Passes.of_departing s.channel .terminated (fun _ => rfl) allowed
  have told : Passes may none (s.jobs.restart.resolved.map .resolved) none :=
    Passes.of_idle none (by simp)
  have counted : Passes may none (if s.jobs.restart.count = 0 then [] else [.logged (.info
      ("Restart abandoned " ++ toString s.jobs.restart.count ++ " outstanding job(s)"))]) none := by
    apply Passes.of_idle
    split <;> rfl
  have withdrawn : Passes may none reset.withdraw.2 none :=
    Passes.of_idle none (by simp [withdraw])
  have started : Passes may none (reset.withdraw.1.start verdict settings).2
      (reset.withdraw.1.start verdict settings).1.channel :=
    reset.withdraw.1.start_passes rfl verdict settings
  have opening : Passes may s.channel [.logged (.info "Restarting compiler")] s.channel :=
    Passes.of_idle s.channel rfl
  exact ((((opening.append gone).append told).append counted).append withdrawn).append started

/-- What a job answered concerns no compiler. -/
theorem conclude_passes (id : Nat) (outcome : Outcome) :
    Passes may s.channel (s.conclude id outcome).2 (s.conclude id outcome).1.channel := by
  cases completed : s.jobs.complete id outcome with
  | none =>
      simp only [conclude, completed]
      exact .nil _
  | some done =>
      simp only [conclude, completed]
      have told : Passes may s.channel (done.resolved.map .resolved) s.channel :=
        Passes.of_idle s.channel (by simp)
      let freed := { s with jobs := done.jobs }
      have same : (freed.absorb done.job outcome).1.channel = s.channel :=
        congrArg Desk.channel (freed.absorb_quiet done.job outcome).2
      rw [same]
      refine told.append (Passes.of_idle s.channel ?_)
      cases outcome with
      | ok answer =>
          by_cases reports : done.job.kind.reports = true
          · cases read : Report.ofAnswer answer with
            | ok report => simp [absorb, reports, read, publish]
            | error error => simp [absorb, reports, read]
          · simp [absorb, reports]
      | error error => cases error <;> rfl

theorem onCompilerEvent_passes (event : CompilerEvent) (allowed : event = .exited →
      ∀ generation, s.channel = some generation → may (.released generation)) :
    Passes may s.channel (s.onCompilerEvent event).2 (s.onCompilerEvent event).1.channel := by
  cases event with
  | ready =>
      simp only [onCompilerEvent]
      by_cases marked : s.jobs.markReady.2 = true
      · rw [if_pos marked]
        exact Passes.of_idle s.channel rfl
      · rw [if_neg marked]
        by_cases gone : s.jobs.phase = .exited
        · rw [if_pos gone]
          exact Passes.of_idle s.channel rfl
        · rw [if_neg gone]
          exact .nil _
  | response id outcome => exact s.conclude_passes id outcome
  | unmatched reason =>
      cases flying : s.jobs.inFlightId with
      | none =>
          simp only [onCompilerEvent, flying]
          exact Passes.of_idle s.channel rfl
      | some id =>
          simp only [onCompilerEvent, flying]
          exact .other rfl (s.conclude_passes id (.error (.garbled reason)))
  | notification notice => exact Passes.of_idle s.channel rfl
  | exited =>
      refine (s.compilerGone_passes (allowed rfl)).append (Passes.of_idle none ?_)
      cases s.closing <;> rfl

theorem handle_passes (valid : s.desk.Valid) (verdict : Verdict) (event : Event)
    (handed : List Handover) :
    Passes (Dismisses event handed) s.channel (s.handle verdict event).2
      (s.handle verdict event).1.channel := by
  cases event with
  | launch settings =>
      simp only [handle]
      by_cases first : s.generation = 0
      · have free : s.channel = none := valid.channel_of_first first
        rw [if_pos first, free]
        exact s.start_passes free verdict settings
      · rw [if_neg first]
        exact Passes.of_idle s.channel rfl
  | restart settings =>
      exact s.restart_passes verdict settings fun _ _ => Or.inr ⟨settings, rfl⟩
  | submit request waiter => exact Passes.of_idle s.channel (by simp [handle])
  | compiler generation event =>
      simp only [handle]
      by_cases current : generation = s.generation
      · rw [if_pos current]
        refine s.onCompilerEvent_passes event fun ended other held => Or.inl ?_
        rw [ended, current, (valid.held other held).1]
        rfl
      · rw [if_neg current]
        exact .nil _
  | status waiter => exact Passes.of_idle s.channel rfl
  | stop => exact .nil _

/-- Of the jobs that are handed over, only one that is refused costs the
compiler. -/
theorem pump_passes (verdict : Verdict) (event : Event) {handed : List Handover}
    (offered : ∀ handover ∈ handovers (s.pump verdict).2, handover ∈ handed) :
    Passes (Dismisses event handed) s.channel (s.pump verdict).2 (s.pump verdict).1.channel := by
  have offer : ∀ (job : Job) (accepted : Bool), Passes (Dismisses event handed) s.channel
      (s.channel.toList.map (Effect.dispatched · job accepted)) s.channel :=
    fun job accepted => Passes.of_idle s.channel (by simp)
  cases driven : s.jobs.drive with
  | none =>
      simp only [pump, driven]
      exact .nil _
  | some next =>
      rcases next with ⟨job, jobs⟩
      simp only [pump, driven] at offered ⊢
      cases refused : s.refusal? verdict job with
      | some cause =>
          simp only [refused] at offered ⊢
          have allowed : ∀ generation, s.channel = some generation →
              Dismisses event handed (.released generation) := by
            intro generation held
            refine Or.inr ⟨job, offered ⟨generation, job, false⟩ ?_⟩
            rw [held]
            exact List.mem_cons_self
          have gone := compilerGone_passes { s with jobs } allowed
          exact ((offer job false).append (Passes.of_idle s.channel rfl)).append gone
      | none =>
          cases job.kind.category with
          | workspace =>
              exact (offer job true).append (Passes.of_idle s.channel (by simp [withdraw]))
          | lifecycle => exact offer job true
          | recompile => exact offer job true
          | query => exact offer job true

theorem halt_passes (handed : List Handover) :
    Passes (Dismisses .stop handed) s.channel s.halt.2 none := by
  have gone : Passes (Dismisses .stop handed) s.channel (s.channel.toList.map .terminated) none :=
    Passes.of_departing s.channel .terminated (fun _ => rfl) fun _ _ => Or.inl rfl
  have told : Passes (Dismisses .stop handed) none (s.jobs.exit.resolved.map .resolved) none :=
    Passes.of_idle none (by simp)
  exact (gone.append (Passes.of_idle none rfl)).append told

/-- In every step compilers come and depart in turn, and depart for a reason. -/
theorem step_passes (valid : s.desk.Valid) (verdict : Verdict) (event : Event) :
    Passes (Dismisses event (handovers (s.step verdict event).2)) s.channel
      (s.step verdict event).2 (s.step verdict event).1.channel := by
  cases ended : s.halted with
  | true =>
      rw [s.step_of_halted ended]
      apply Passes.of_idle
      cases event with
      | submit request waiter => cases waiter <;> rfl
      | _ => rfl
  | false =>
      by_cases last : event = .stop
      · subst event
        rw [s.step_stop ended]
        exact s.halt_passes _
      · rw [s.step_of_ne_stop ended verdict last]
        refine (s.handle_passes valid verdict event _).append (pump_passes _ verdict event ?_)
        intro handover member
        rw [handovers_append]
        exact List.mem_append_right _ member

end

end Supervisor

/-! ## Compilers in a run -/

/-- A step attempts at most one launch, which begins the next generation. -/
theorem Desk.Handles.generations {verdict : Verdict} {desk after : Desk} {event : Event}
    {begun : List Launch} {told : List Resolution}
    (handled : Handles verdict desk event after begun told) :
    begun.map (·.generation) = List.range' (desk.generation + 1) begun.length := by
  cases handled with
  | lost running loss => cases loss <;> rfl
  | _ => rfl

namespace Moment

theorem run_passes (events : List (Verdict × Event)) :
    Passes (fun _ => True) none (Supervisor.initial.run events).2
      (Supervisor.initial.run events).1.channel := by
  refine induction (P := fun events s => Passes (fun _ => True) none
    (Supervisor.initial.run events).2 s.channel) (.nil none) ?_ events
  intro moment before
  rw [run_through]
  have stepped := moment.state.step_passes moment.desk_valid moment.verdict moment.event
  exact before.append (stepped.mono fun _ _ => trivial)

/-- The launches of a run are numbered from 1. -/
theorem generations_of_launches (events : List (Verdict × Event)) :
    (launches (Supervisor.initial.run events).2).map (·.generation) =
      List.range' 1 (Supervisor.initial.run events).1.generation := by
  refine induction (P := fun events s => (launches (Supervisor.initial.run events).2).map
    (·.generation) = List.range' 1 s.generation) rfl ?_ events
  intro moment before
  rcases moment.halves with ⟨told, lost, handled, _, _⟩
  have begun : (launches moment.effects).map (·.generation) =
      List.range' (moment.state.generation + 1) (launches moment.effects).length :=
    handled.generations
  rw [run_through, launches_append, List.map_append, before, begun, moment.next_generation.1,
    Nat.add_comm moment.state.generation 1, List.range'_append_1]

/-- No compiler is started twice. -/
theorem starts_nodup (events : List (Verdict × Event)) :
    (starts (Supervisor.initial.run events).2).Nodup := by
  have distinct : ((launches (Supervisor.initial.run events).2).map (·.generation)).Nodup := by
    rw [generations_of_launches]
    exact List.nodup_range'
  exact distinct.sublist (List.filter_sublist.map _)

end Moment

/-! ## Whether a compiler is held -/

/-- A compiler is held exactly when one was launched and the queue has not lost
it.  Before the first launch nothing was announced and nothing lost. -/
structure Desk.Holds (desk : Desk) : Prop where
  held : desk.channel.isSome = true ↔ 1 ≤ desk.generation ∧ desk.jobs.phase ≠ .exited
  fresh : desk.generation = 0 → desk.halted = false → desk.jobs.phase = .notReady

/-- A desk without a compiler that knows it. -/
theorem Desk.holds_of_exited {desk : Desk} (free : desk.channel = none)
    (gone : desk.jobs.phase = .exited) (begun : 1 ≤ desk.generation ∨ desk.halted = true) :
    desk.Holds where
  held := by
    rw [free]
    exact ⟨(nomatch ·), fun present => absurd gone present.2⟩
  fresh := by
    intro first running
    rcases begun with later | ended
    · omega
    · rw [running] at ended
      cases ended

/-- Nothing is announced before the first launch. -/
theorem Desk.Holds.begun {desk : Desk} (holds : desk.Holds) (valid : desk.Valid)
    (ready : desk.jobs.phase = .ready) : 1 ≤ desk.generation := by
  apply Nat.one_le_iff_ne_zero.mpr
  intro first
  have running : desk.halted = false := by
    refine Bool.eq_false_iff.mpr fun ended => ?_
    rw [valid.ended ended] at ready
    cases ready
  rw [holds.fresh first running] at ready
  cases ready

namespace Moment

/-- Nothing that happens separates the compiler that is held from the phase of
the queue, if no event is stamped with the generation before the first launch. -/
theorem preserved_holds : Preserved fun heard _ desk =>
    (∀ verdict said, (verdict, Event.compiler 0 said) ∉ heard) → desk.Holds where
  start := by
    intro _
    exact ⟨⟨(nomatch ·), fun present => nomatch present.1⟩, fun _ _ => rfl⟩
  handles := by
    intro moment event between begun told happened launched handled invariant unstamped
    have before := invariant fun verdict said member =>
      unstamped verdict said (List.mem_append_left _ member)
    have stamped : ∀ said, event = .compiler moment.state.desk.generation said →
        1 ≤ moment.state.desk.generation := by
      intro said spoke
      apply Nat.one_le_iff_ne_zero.mpr
      intro early
      apply unstamped moment.verdict said
      rw [← early, ← spoke, ← happened]
      exact List.mem_append_right _ (List.mem_singleton_self _)
    cases handled with
    | ignored => exact before
    | launched running first started =>
        have phase := before.fresh first running
        refine ⟨⟨fun _ => ⟨Nat.le_add_left _ _, ?_⟩, fun _ => rfl⟩,
          fun impossible => nomatch impossible⟩
        change moment.state.desk.jobs.phase ≠ .exited
        rw [phase]
        exact (nomatch ·)
    | lost running loss =>
        cases loss with
        | launchFailed => exact Desk.holds_of_exited rfl rfl (Or.inl (Nat.le_add_left _ _))
        | restarted =>
            exact ⟨⟨fun _ => ⟨Nat.le_add_left _ _, (nomatch ·)⟩, fun _ => rfl⟩,
              fun impossible => nomatch impossible⟩
        | restartFailed => exact Desk.holds_of_exited rfl rfl (Or.inl (Nat.le_add_left _ _))
        | exited => exact Desk.holds_of_exited rfl rfl (Or.inl (stamped .exited rfl))
        | stopped => exact Desk.holds_of_exited rfl rfl (Or.inr rfl)
    | submitted request waiter =>
        have same := (moment.state.desk.jobs.submit_frame request waiter).1
        exact ⟨same.symm ▸ before.held, same.symm ▸ before.fresh⟩
    | readied running waiting =>
        refine ⟨⟨fun present => ⟨stamped .ready rfl, (nomatch ·)⟩, fun present => ?_⟩, ?_⟩
        · apply before.held.mpr
          refine ⟨present.1, ?_⟩
          rw [waiting]
          exact (nomatch ·)
        · intro first
          have later := stamped .ready rfl
          change moment.state.desk.generation = 0 at first
          omega
    | @concluded said ticket outcome running flying settles =>
        have busy : moment.state.desk.jobs.phase = .busy :=
          moment.desk_valid.jobs.busy.mpr (by rw [flying]; rfl)
        have free : moment.state.desk.jobs.free.phase = .ready := if_pos busy
        refine ⟨⟨fun present => ⟨stamped said rfl, ?_⟩, fun present => ?_⟩, ?_⟩
        · rw [free]
          exact (nomatch ·)
        · apply before.held.mpr
          refine ⟨present.1, ?_⟩
          rw [busy]
          exact (nomatch ·)
        · intro first
          have later := stamped said rfl
          change moment.state.desk.generation = 0 at first
          omega
  pumps := by
    intro moment between after given lost valid offered pumped invariant unstamped
    have before := invariant unstamped
    cases pumped with
    | idle => exact before
    | taken ready free split held accepts =>
        have current := valid.held _ held
        have later : 1 ≤ between.generation := current.1 ▸ current.2
        refine ⟨⟨fun _ => ⟨later, (nomatch ·)⟩, fun _ => ?_⟩, ?_⟩
        · rw [held]
          rfl
        · intro first
          change between.generation = 0 at first
          omega
    | failed ready =>
        exact Desk.holds_of_exited rfl rfl (Or.inl (before.begun valid ready))

end Moment

/-! ## The custody of a run -/

open Moment

/-- Every event of a compiler is stamped with the generation of a launch, which
need not be earlier in the run.  A reader is given its stamp when its compiler
is launched. -/
def Stamped (events : List (Verdict × Event)) : Prop :=
  ∀ verdict generation said, (verdict, Event.compiler generation said) ∈ events →
    ∃ launch ∈ launches (Supervisor.initial.run events).2, launch.generation = generation

theorem Stamped.unstamped {events : List (Verdict × Event)} (stamped : Stamped events)
    (verdict : Verdict) (said : CompilerEvent) : (verdict, Event.compiler 0 said) ∉ events := by
  intro member
  rcases stamped verdict 0 said member with ⟨launch, listed, first⟩
  have numbered : launch.generation ∈
      (launches (Supervisor.initial.run events).2).map (·.generation) := List.mem_map_of_mem listed
  rw [generations_of_launches, first] at numbered
  have bounds := List.mem_range'_1.mp numbered
  omega

/-- How compilers are held and given up in a run.  Some fields are about states
and steps, and the others about the sequence of all effects, since compilers are
started and given up by effects. -/
structure Custody (events : List (Verdict × Event)) : Prop where
  /-- Between any two events a compiler is held exactly when one was launched
  and the queue has not lost it. -/
  held : ∀ before, before <+: events →
    let s := (Supervisor.initial.run before).1
    s.channel.isSome = true ↔ 1 ≤ s.generation ∧ s.jobs.phase ≠ .exited
  /-- When a job is taken from the queue, there is a compiler to hand it to. -/
  present : ∀ (moment : Moment) (job : Job) (jobs : JobQueue), moment.In events →
    moment.middle.jobs.drive = some (job, jobs) →
      moment.middle.channel = some moment.middle.generation
  /-- At any point those that were started are those that departed, in the same
  order, and at most one that is held. -/
  single : ∀ early late, (Supervisor.initial.run events).2 = early ++ late →
    ∃ holds : Option Nat, starts early = departures early ++ holds.toList
  /-- When a launch is attempted, everyone that was started before has departed. -/
  vacant : ∀ early late generation settings started,
    (Supervisor.initial.run events).2 = early ++ launched generation settings started :: late →
      starts early = departures early
  /-- Between its start and the next attempt to launch a compiler departs
  exactly once, and no other one does. -/
  turn : ∀ early between late generation next settings settings' started,
    (Supervisor.initial.run events).2 = early ++ launched generation settings true ::
      (between ++ launched next settings' started :: late) →
        launches between = [] → departures between = [generation]
  /-- Nobody departs twice, in whatever way. -/
  once : (departures (Supervisor.initial.run events).2).Nodup
  /-- Who has not departed is held. -/
  rest : starts (Supervisor.initial.run events).2 =
    departures (Supervisor.initial.run events).2 ++ (Supervisor.initial.run events).1.channel.toList
  /-- A compiler is told to end by a restart or at the end, and let go when it
  ended or did not take a job. -/
  reasons : ∀ (moment : Moment) (effect : Effect) (generation : Nat), moment.In events →
    effect ∈ moment.effects → effect.departure? = some generation →
      Dismisses moment.event (handovers moment.effects) effect

/-- Every run whose events are stamped holds and gives up its compilers in good
order. -/
theorem custody_of_stamped (events : List (Verdict × Event)) (stamped : Stamped events) :
    Custody events := by
  have unstamped : ∀ {before : List (Verdict × Event)}, before <+: events →
      ∀ verdict said, (verdict, Event.compiler 0 said) ∉ before :=
    fun shorter verdict said member => stamped.unstamped verdict said (shorter.subset member)
  have whole := run_passes events
  refine ⟨?_, ?_, ?_, ?_, ?_, ?_, whole.starts_eq, ?_⟩
  · intro before shorter
    exact (preserved_holds.holds before (unstamped shorter)).held
  · intro moment job jobs inside driven
    rcases moment.halves with ⟨told, lost, handled, _⟩
    have valid := moment.desk_valid.handles handled
    have holds := preserved_holds.middle moment (unstamped inside)
    rcases (moment.middle.jobs.drive_eq_some_iff jobs job).mp driven with ⟨_, _, ready, _⟩
    have present : moment.middle.desk.channel.isSome = true := by
      refine holds.held.mpr ⟨holds.begun valid ready, fun gone => ?_⟩
      cases ready.symm.trans gone
    rcases Option.isSome_iff_exists.mp present with ⟨generation, held⟩
    exact held.trans (congrArg some (valid.held generation held).1)
  · intro early late cut
    rw [cut] at whole
    rcases whole.split with ⟨middle, first, _⟩
    exact ⟨middle, first.starts_eq⟩
  · intro early late generation settings started cut
    rw [cut] at whole
    exact whole.vacant
  · intro early between late generation next settings settings' started cut unlaunched
    rw [cut] at whole
    exact whole.departures_between unlaunched
  · have distinct := starts_nodup events
    rw [show starts (Supervisor.initial.run events).2 = _ from whole.starts_eq] at distinct
    exact distinct.of_append_left
  · intro moment effect generation _ member departs
    exact (moment.state.step_passes moment.desk_valid moment.verdict moment.event).may_of_mem
      member departs

/-- A compiler is replaced, and the one that replaces it ends. -/
theorem custody_of_replacement :
    let willing : Verdict := ⟨fun _ => none, fun _ => none⟩
    let events : List (Verdict × Event) := [(willing, .launch {}), (willing, .compiler 1 .ready),
      (willing, .submit .shutdown none), (willing, .restart {}), (willing, .compiler 2 .ready),
      (willing, .compiler 1 .exited), (willing, .compiler 2 .exited), (willing, .launch {})]
    Stamped events ∧ Custody events ∧ (Supervisor.initial.run events).1.channel = none ∧
      departures (Supervisor.initial.run events).2 = [1, 2] := by
  intro willing events
  have begun : launches (Supervisor.initial.run events).2 =
      [⟨1, {}, true⟩, ⟨2, {}, true⟩] := by decide +kernel
  have stamped : Stamped events := by
    intro verdict generation said member
    rw [begun]
    simp only [events, List.mem_cons, Prod.mk.injEq, reduceCtorEq, and_false, false_or,
      Event.compiler.injEq, List.not_mem_nil, or_false] at member
    have first : (⟨1, {}, true⟩ : Launch) ∈ [(⟨1, {}, true⟩ : Launch), ⟨2, {}, true⟩] :=
      List.mem_cons_self
    have second : (⟨2, {}, true⟩ : Launch) ∈ [(⟨1, {}, true⟩ : Launch), ⟨2, {}, true⟩] :=
      List.mem_cons_of_mem _ List.mem_cons_self
    rcases member with ⟨_, rfl, _⟩ | ⟨_, rfl, _⟩ | ⟨_, rfl, _⟩ | ⟨_, rfl, _⟩
    · exact ⟨_, first, rfl⟩
    · exact ⟨_, second, rfl⟩
    · exact ⟨_, first, rfl⟩
    · exact ⟨_, second, rfl⟩
  exact ⟨stamped, custody_of_stamped events stamped, by decide +kernel, by decide +kernel⟩

end CompilerRelay
