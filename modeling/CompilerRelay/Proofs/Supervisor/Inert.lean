import CompilerRelay.Proofs.Supervisor.History

/-!
# Events without consequences

What a replaced compiler still says, questions about how things stand, a
second first launch, an answer to a job that is not in flight, and an
announcement that is not awaited are `Inert`.  A run from which any of these
events are deleted goes on as if they had happened.

That handling such an event changes nothing is not enough for this, since after
every event a job may be handed over.  The supervisor must leave nothing behind
that could have been handed over before.  This is what `Rests` says, and it
holds after every step.  The two runs are compared in everything but the log
and the answers to those who asked how things stand.
-/

namespace CompilerRelay

namespace Effect

/-- Whether an effect is more than an entry in the log or an answer to somebody
who asks how things stand. -/
def matters : Effect → Bool
  | logged _ => false
  | reported _ _ => false
  | _ => true

/-- Whether an effect is something the editor is sent. -/
def reachesEditor : Effect → Bool
  | published _ => true
  | notified _ => true
  | _ => false

def termination? : Effect → Option Nat
  | terminated generation => some generation
  | _ => none

def terminations (effects : List Effect) : List Nat :=
  effects.filterMap termination?

/-- A reading of neither the log nor such answers may as well do without them. -/
theorem filterMap_filter_matters {α : Type} (pick : Effect → Option α)
    (unlogged : ∀ entry, pick (logged entry) = none)
    (unreported : ∀ waiter status, pick (reported waiter status) = none)
    (effects : List Effect) :
    (effects.filter matters).filterMap pick = effects.filterMap pick := by
  rw [List.filterMap_filter]
  congr 1
  funext effect
  cases effect with
  | logged entry => exact (unlogged entry).symm
  | reported waiter status => exact (unreported waiter status).symm
  | _ => rfl

theorem filter_reachesEditor_filter_matters (effects : List Effect) :
    (effects.filter matters).filter reachesEditor = effects.filter reachesEditor := by
  rw [List.filter_filter]
  congr 1
  funext effect
  cases effect <;> rfl

end Effect

open Effect

/-! ## Nothing that could be handed over is left behind -/

namespace Desk

/-- No job waits for want of a further event: the compiler is not ready, it is
busy with another job, or none waits. -/
def Rests (desk : Desk) : Prop :=
  ¬ (desk.jobs.phase = .ready ∧ desk.jobs.inFlight = none ∧ desk.jobs.queue ≠ [])

theorem Pumps.rests {verdict : Verdict} {desk after : Desk} {handed : List Handover}
    {lost : List Resolution} (pumped : Pumps verdict desk after handed lost) : after.Rests := by
  intro waits
  cases pumped with
  | idle nothing => exact nothing waits
  | taken => cases waits.1
  | failed => cases waits.1

end Desk

namespace Supervisor

/-- One hand-over after each event is enough. -/
theorem step_rests (s : Supervisor) (valid : s.desk.Valid) (verdict : Verdict) (event : Event) :
    (s.step verdict event).1.desk.Rests := by
  rcases s.step_handles_pumps valid verdict event with ⟨told, lost, _, pumped, _⟩
  exact pumped.rests

/-- Between two events of a run no job waits for a compiler that is free. -/
theorem run_rests (events : List (Verdict × Event)) : (initial.run events).1.desk.Rests :=
  Moment.induction (P := fun _ s => s.desk.Rests) (fun waits => nomatch waits.1)
    (fun moment _ => moment.state.step_rests moment.desk_valid moment.verdict moment.event) events

theorem pump_of_rests (s : Supervisor) (rests : s.desk.Rests) (verdict : Verdict) :
    s.pump verdict = (s, []) := by
  have nothing : s.jobs.drive = none := (s.jobs.drive_eq_none_iff).mpr rests
  simp only [pump, nothing]

/-! ## Inert events -/

/-- The event is of no consequence in this state.  What is stale depends on the
state in which it is handled, so the same event may count in another place of
the run. -/
def Inert (s : Supervisor) : Event → Prop
  | .launch _ => s.generation ≠ 0
  | .status _ => True
  | .compiler generation event => generation ≠ s.generation ∨
      match event with
      | .response id _ => s.jobs.inFlightId ≠ some id
      | .ready => s.jobs.phase ≠ .notReady
      | _ => False
  | _ => False

theorem onCompilerEvent_of_inert (s : Supervisor) {event : CompilerEvent}
    (inert : s.Inert (.compiler s.generation event)) :
    (s.onCompilerEvent event).1 = s ∧ (s.onCompilerEvent event).2.filter matters = [] := by
  rcases inert with other | inert
  · exact absurd rfl other
  · cases event with
    | ready =>
        simp only [onCompilerEvent, JobQueue.markReady, if_neg inert, Bool.false_eq_true, if_false]
        by_cases gone : s.jobs.phase = .exited
        · rw [if_pos gone]
          exact ⟨rfl, rfl⟩
        · rw [if_neg gone]
          exact ⟨rfl, rfl⟩
    | response id outcome =>
        simp only [onCompilerEvent, s.conclude_of_stale id outcome inert]
        exact ⟨trivial, rfl⟩
    | _ => exact inert.elim

theorem handle_of_inert (s : Supervisor) (verdict : Verdict) {event : Event}
    (inert : s.Inert event) :
    (s.handle verdict event).1 = s ∧ (s.handle verdict event).2.filter matters = [] := by
  cases event with
  | launch settings =>
      simp only [handle, if_neg inert]
      exact ⟨trivial, rfl⟩
  | compiler generation event =>
      by_cases current : generation = s.generation
      · subst current
        simp only [handle, if_true]
        exact s.onCompilerEvent_of_inert inert
      · simp only [handle, if_neg current]
        exact ⟨trivial, rfl⟩
  | status waiter => exact ⟨rfl, rfl⟩
  | restart settings => exact inert.elim
  | submit request waiter => exact inert.elim
  | stop => exact inert.elim

/-- A step that handles an inert event leaves no trace, and no job is handed
over in it. -/
theorem step_of_inert (s : Supervisor) (rests : s.desk.Rests) (verdict : Verdict) {event : Event}
    (inert : s.Inert event) :
    (s.step verdict event).1 = s ∧ (s.step verdict event).2.filter matters = [] := by
  cases ended : s.halted with
  | true =>
      rw [s.step_of_halted ended]
      refine ⟨rfl, ?_⟩
      cases event with
      | submit request waiter => exact inert.elim
      | _ => rfl
  | false =>
      have continues : event ≠ .stop := by
        intro last
        subst last
        exact inert
      rcases s.handle_of_inert verdict inert with ⟨same, silent⟩
      rw [s.step_of_ne_stop ended verdict continues, same, s.pump_of_rests rests verdict,
        List.append_nil]
      exact ⟨rfl, silent⟩

/-! ## Runs without them -/

/-- The second list is the first one without some events that were inert when
their turn came. -/
inductive Thins : Supervisor → List (Verdict × Event) → List (Verdict × Event) → Prop
  | nil (s : Supervisor) : Thins s [] []
  | keep {s : Supervisor} {verdict : Verdict} {event : Event}
      {rest fewer : List (Verdict × Event)} (later : Thins (s.step verdict event).1 rest fewer) :
      Thins s ((verdict, event) :: rest) ((verdict, event) :: fewer)
  | drop {s : Supervisor} {verdict : Verdict} {event : Event}
      {rest fewer : List (Verdict × Event)} (inert : s.Inert event)
      (later : Thins (s.step verdict event).1 rest fewer) :
      Thins s ((verdict, event) :: rest) fewer

/-- Both runs end in one state and do the same in the same order, except for
what is logged and reported. -/
theorem run_of_thins {s : Supervisor} (valid : s.desk.Valid) (rests : s.desk.Rests)
    {events fewer : List (Verdict × Event)} (thins : Thins s events fewer) :
    (s.run events).1 = (s.run fewer).1 ∧
      (s.run events).2.filter matters = (s.run fewer).2.filter matters := by
  induction thins with
  | nil => exact ⟨rfl, rfl⟩
  | @keep s verdict event rest fewer later inductionHypothesis =>
      rcases s.step_handles_pumps valid verdict event with ⟨told, lost, handled, pumped, _⟩
      have same := inductionHypothesis ((valid.handles handled).pumps pumped) pumped.rests
      simp only [run, List.filter_append]
      exact ⟨same.1, congrArg _ same.2⟩
  | @drop s verdict event rest fewer inert later inductionHypothesis =>
      rcases s.step_of_inert rests verdict inert with ⟨unchanged, silent⟩
      rw [unchanged] at inductionHypothesis
      have same := inductionHypothesis valid rests
      simp only [run, List.filter_append, unchanged, silent, List.nil_append]
      exact same

/-- What two runs have in common.  The log may differ, and so may the answers to
questions about how things stand. -/
structure Alike (first second : Supervisor × List Effect) : Prop where
  /-- The same jobs are handed to the same compilers, which take the same ones. -/
  handovers : handovers first.2 = handovers second.2
  /-- Compilers are started with the same settings. -/
  launches : launches first.2 = launches second.2
  terminations : terminations first.2 = terminations second.2
  /-- The editor is sent the same publications and notices in the same order. -/
  editor : first.2.filter reachesEditor = second.2.filter reachesEditor
  resolutions : resolutions first.2 = resolutions second.2
  state : first.1 = second.1

/-- Inert events may be deleted from a run, in any number and at any places. -/
theorem alike_of_thins {events fewer : List (Verdict × Event)}
    (thins : Thins initial events fewer) : Alike (initial.run events) (initial.run fewer) := by
  rcases run_of_thins Moment.initial_desk_valid (run_rests []) thins with ⟨state, effects⟩
  have reads : ∀ {α : Type} (pick : Effect → Option α), (∀ entry, pick (logged entry) = none) →
      (∀ waiter status, pick (reported waiter status) = none) →
        (initial.run events).2.filterMap pick = (initial.run fewer).2.filterMap pick := by
    intro α pick unlogged unreported
    rw [← filterMap_filter_matters pick unlogged unreported, effects,
      filterMap_filter_matters pick unlogged unreported]
  refine ⟨reads handover? ?_ ?_, reads launch? ?_ ?_, reads termination? ?_ ?_, ?_,
    reads resolution? ?_ ?_, state⟩
  case refine_7 =>
    rw [← filter_reachesEditor_filter_matters, effects, filter_reachesEditor_filter_matters]
  all_goals intros; rfl

/-- Of a run in which a question is asked and answered, five events may be
deleted: somebody asks how things stand, an earlier compiler ends, a job is
answered that nobody waits for, and the compiler is launched and announces
itself again. -/
theorem alike_of_thins_question :
    let willing : Verdict := ⟨fun _ => none, fun _ => none⟩
    let question : Event := .submit (.hover ⟨⟨"a"⟩, ⟨0, 0⟩⟩) (some 7)
    let events : List (Verdict × Event) := [(willing, .launch {}), (willing, .compiler 1 .ready),
      (willing, .status 3), (willing, .compiler 0 .exited), (willing, question),
      (willing, .compiler 1 (.response 5 (.ok .null))), (willing, .launch {}),
      (willing, .compiler 1 .ready), (willing, .compiler 1 (.response 1 (.ok .null)))]
    let fewer : List (Verdict × Event) := [(willing, .launch {}), (willing, .compiler 1 .ready),
      (willing, question), (willing, .compiler 1 (.response 1 (.ok .null)))]
    Thins initial events fewer ∧ Alike (initial.run events) (initial.run fewer) := by
  intro willing question events fewer
  have thins : Thins initial events fewer := by
    refine .keep (.keep (.drop trivial (.drop (Or.inl ?_) (.keep (.drop (Or.inr ?_)
      (.drop ?_ (.drop (Or.inr ?_) (.keep (.nil _)))))))))
    · decide +kernel
    · decide +kernel
    · change (_ : Nat) ≠ 0
      decide +kernel
    · decide +kernel
  exact ⟨thins, alike_of_thins thins⟩

end Supervisor
end CompilerRelay
