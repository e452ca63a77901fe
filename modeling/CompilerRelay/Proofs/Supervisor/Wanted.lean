import CompilerRelay.Proofs.Supervisor.Custody

/-!
# Which events lead to a launch

A compiler is launched for the first event that asks for one, and then for each
restart.  Until the supervisor ends, the launches of a run are therefore known
from its events alone (`Event.wanted`), whatever becomes of them and whatever
compilers do in between.  Each launch takes its settings from its own event:
the compiler is started with one part of them, and the other part, the label of
diagnostics, is in use until the next launch.
-/

namespace CompilerRelay

open Effect

namespace Event

/-- The settings that an event asks to launch a compiler with, if so many
launches were attempted before. -/
def wants? (before : Nat) : Event → Option Settings
  | launch settings => if before = 0 then some settings else none
  | restart settings => some settings
  | _ => none

/-- The settings for launches when one more event is handled. -/
def addWanted (listed : List Settings) (event : Event) : List Settings :=
  listed ++ (event.wants? listed.length).toList

/-- The settings of the launches that events ask for, in order.  Every restart
asks for one, and a request to launch does if nothing asked for one before. -/
def wanted (events : List Event) : List Settings :=
  events.foldl addWanted []

theorem wanted_append (first second : List Event) :
    wanted (first ++ second) = second.foldl addWanted (wanted first) :=
  List.foldl_append

theorem prefix_foldl_addWanted (events : List Event) (listed : List Settings) :
    listed <+: events.foldl addWanted listed := by
  induction events generalizing listed with
  | nil => exact List.prefix_rfl
  | cons event rest inductionHypothesis =>
      exact (List.prefix_append listed _).trans (inductionHypothesis (addWanted listed event))

end Event

/-- The label of diagnostics after launches with the given settings. -/
def labelAfter (used : List Settings) : String :=
  (used.getLast?.map (·.diagnosticsSource)).getD Supervisor.initial.source

theorem Desk.Handles.settings {verdict : Verdict} {desk after : Desk} {event : Event}
    {begun : List Launch} {told : List Resolution} (running : desk.halted = false)
    (handled : Handles verdict desk event after begun told) :
    begun.map (·.settings) = (event.wants? desk.generation).toList.map (·.compiler) := by
  cases handled with
  | ignored ignores =>
      rcases ignores with ⟨ended, _⟩ | passed
      · rw [running] at ended
        cases ended
      · cases event with
        | launch settings =>
            rw [Event.wants?, if_neg passed]
            rfl
        | restart => exact passed.elim
        | _ => rfl
  | launched _ first =>
      rw [Event.wants?, if_pos first]
      rfl
  | lost _ loss =>
      cases loss with
      | launchFailed first =>
          rw [Event.wants?, if_pos first]
          rfl
      | _ => rfl
  | _ => rfl

/-- Only the end ends the supervisor. -/
theorem Desk.Handles.halted_eq {verdict : Verdict} {desk after : Desk} {event : Event}
    {begun : List Launch} {told : List Resolution}
    (handled : Handles verdict desk event after begun told) (continues : event ≠ .stop) :
    after.halted = desk.halted := by
  cases handled with
  | lost _ loss =>
      cases loss with
      | stopped => exact absurd rfl continues
      | _ => rfl
  | _ => rfl

theorem Desk.Pumps.halted_eq {verdict : Verdict} {desk after : Desk} {handed : List Handover}
    {lost : List Resolution} (pumped : Pumps verdict desk after handed lost) :
    after.halted = desk.halted := by
  cases pumped <;> rfl

/-! ## The label of diagnostics -/

namespace Supervisor

variable (s : Supervisor) (verdict : Verdict)

theorem start_source (settings : Settings) :
    (s.start verdict settings).1.source = settings.diagnosticsSource := by
  unfold start
  cases verdict.launch settings.compiler <;> rfl

theorem absorb_source (job : Job) (outcome : Outcome) :
    (s.absorb job outcome).1.source = s.source := by
  cases outcome with
  | ok answer =>
      by_cases reports : job.kind.reports = true
      · simp only [absorb, if_pos reports]
        cases Report.ofAnswer answer <;> rfl
      · simp only [absorb, if_neg reports]
  | error error => cases error <;> rfl

theorem conclude_source (id : Nat) (outcome : Outcome) :
    (s.conclude id outcome).1.source = s.source := by
  cases completed : s.jobs.complete id outcome with
  | none => simp only [conclude, completed]
  | some done =>
      simp only [conclude, completed]
      exact absorb_source { s with jobs := done.jobs } done.job outcome

theorem onCompilerEvent_source (event : CompilerEvent) :
    (s.onCompilerEvent event).1.source = s.source := by
  cases event with
  | ready =>
      simp only [onCompilerEvent]
      by_cases marked : s.jobs.markReady.2 = true
      · rw [if_pos marked]
      · rw [if_neg marked]
        by_cases gone : s.jobs.phase = .exited
        · rw [if_pos gone]
        · rw [if_neg gone]
  | response id outcome => exact s.conclude_source id outcome
  | unmatched reason =>
      cases flying : s.jobs.inFlightId with
      | none => simp only [onCompilerEvent, flying]
      | some id =>
          simp only [onCompilerEvent, flying]
          exact s.conclude_source id (.error (.garbled reason))
  | notification => rfl
  | exited => rfl

theorem handle_source (event : Event) : (s.handle verdict event).1.source =
    ((event.wants? s.generation).map (·.diagnosticsSource)).getD s.source := by
  cases event with
  | launch settings =>
      simp only [handle, Event.wants?]
      by_cases first : s.generation = 0
      · rw [if_pos first, if_pos first]
        exact s.start_source verdict settings
      · rw [if_neg first, if_neg first]
        rfl
  | restart settings => exact start_source _ verdict settings
  | compiler generation event =>
      simp only [handle]
      by_cases current : generation = s.generation
      · rw [if_pos current]
        exact s.onCompilerEvent_source event
      · rw [if_neg current]
        rfl
  | _ => rfl

theorem pump_source : (s.pump verdict).1.source = s.source := by
  cases driven : s.jobs.drive with
  | none => simp only [pump, driven]
  | some next =>
      rcases next with ⟨job, jobs⟩
      simp only [pump, driven]
      cases refused : s.refusal? verdict job with
      | some cause => rfl
      | none => cases job.kind.category <;> rfl

theorem step_source (running : s.halted = false) {event : Event} (continues : event ≠ .stop) :
    (s.step verdict event).1.source =
      ((event.wants? s.generation).map (·.diagnosticsSource)).getD s.source := by
  rw [s.step_of_ne_stop running verdict continues, pump_source, handle_source]

end Supervisor

/-! ## Launches of a run -/

theorem labelAfter_addWanted (listed : List Settings) (event : Event) :
    labelAfter (Event.addWanted listed event) =
      ((event.wants? listed.length).map (·.diagnosticsSource)).getD (labelAfter listed) := by
  unfold Event.addWanted labelAfter
  cases event.wants? listed.length with
  | none =>
      rw [Option.toList_none, List.append_nil]
      rfl
  | some settings =>
      rw [Option.toList_some, List.getLast?_concat]
      rfl

/-- What is known of a run before the end from the settings that its events ask
for. -/
structure Uses (s : Supervisor) (effects : List Effect) (used : List Settings) : Prop where
  running : s.halted = false
  attempts : s.generation = used.length
  settings : (launches effects).map (·.settings) = used.map (·.compiler)
  label : s.source = labelAfter used

theorem Moment.uses {events : List (Verdict × Event)} (goes_on : .stop ∉ events.map Prod.snd) :
    Uses (Supervisor.initial.run events).1 (Supervisor.initial.run events).2
      (Event.wanted (events.map Prod.snd)) := by
  revert goes_on
  refine induction (P := fun events s => .stop ∉ events.map Prod.snd →
    Uses s (Supervisor.initial.run events).2 (Event.wanted (events.map Prod.snd)))
      (fun _ => ⟨rfl, rfl, rfl, rfl⟩) ?_ events
  intro moment inductionHypothesis goes_on
  rw [through, List.map_append, List.mem_append, not_or] at goes_on
  have continues : moment.event ≠ .stop :=
    fun last => goes_on.2 (List.mem_singleton.mpr last.symm)
  have before := inductionHypothesis goes_on.1
  have attempts : moment.state.generation = (Event.wanted (moment.before.map Prod.snd)).length :=
    before.attempts
  have added : Event.wanted (moment.through.map Prod.snd) =
      Event.addWanted (Event.wanted (moment.before.map Prod.snd)) moment.event := by
    rw [through, List.map_append, Event.wanted_append]
    rfl
  rcases moment.halves with ⟨told, lost, handled, pumped, _⟩
  have settings := handled.settings before.running
  have launched : (launches moment.effects).length =
      (moment.event.wants? moment.state.generation).toList.length := by
    have same := congrArg List.length settings
    rwa [List.length_map, List.length_map] at same
  rw [added, run_through]
  refine ⟨?_, ?_, ?_, ?_⟩
  · exact pumped.halted_eq.trans ((handled.halted_eq continues).trans before.running)
  · rw [moment.next_generation.1, launched, attempts, Event.addWanted, List.length_append]
  · rw [launches_append, List.map_append, before.settings, settings, Event.addWanted,
      List.map_append]
    change _ ++ List.map _ (moment.event.wants? moment.state.generation).toList = _
    rw [attempts]
  · rw [labelAfter_addWanted, ← before.label, ← attempts]
    exact moment.state.step_source moment.verdict before.running continues

end CompilerRelay
