import CompilerRelay.Supervisor.Basic
import Mathlib.Data.List.Induction

/-!
# Runs and the moments in them

Every list of events is a run of the supervisor, so a property of all runs is
a property of all lists.  A `Moment` is one step of a run: the events handled
before it and the event handled in it.  What lies after it does not matter to
it, and the order of two moments is the order of prefixes.

The projections at the beginning read off the effects the part that a
statement is about: publications, resolutions, launches and handovers.  A
handover is a job offered to a compiler that is held, whether the compiler
takes it or not.
-/

namespace CompilerRelay

/-- A job that was offered to the compiler of a generation, and whether the
compiler took it. -/
structure Handover where
  generation : Nat
  job : Job
  accepted : Bool
  deriving DecidableEq, Repr

/-- An attempt to start the compiler of a generation.  The generation is used up
even if the attempt fails. -/
structure Launch where
  generation : Nat
  settings : LaunchSettings
  started : Bool
  deriving DecidableEq, Repr

namespace Effect

def publication? : Effect → Option Publication
  | published publication => some publication
  | _ => none

def resolution? : Effect → Option Resolution
  | resolved resolution => some resolution
  | _ => none

def handover? : Effect → Option Handover
  | dispatched generation job accepted => some ⟨generation, job, accepted⟩
  | _ => none

def launch? : Effect → Option Launch
  | launched generation settings started => some ⟨generation, settings, started⟩
  | _ => none

def publications (effects : List Effect) : List Publication :=
  effects.filterMap publication?

def resolutions (effects : List Effect) : List Resolution :=
  effects.filterMap resolution?

def handovers (effects : List Effect) : List Handover :=
  effects.filterMap handover?

def launches (effects : List Effect) : List Launch :=
  effects.filterMap launch?

def starts (effects : List Effect) : List Nat :=
  ((launches effects).filter (·.started)).map (·.generation)

@[simp] theorem publications_append (first second : List Effect) :
    publications (first ++ second) = publications first ++ publications second :=
  List.filterMap_append

@[simp] theorem resolutions_append (first second : List Effect) :
    resolutions (first ++ second) = resolutions first ++ resolutions second :=
  List.filterMap_append

@[simp] theorem handovers_append (first second : List Effect) :
    handovers (first ++ second) = handovers first ++ handovers second :=
  List.filterMap_append

@[simp] theorem launches_append (first second : List Effect) :
    launches (first ++ second) = launches first ++ launches second :=
  List.filterMap_append

@[simp] theorem starts_append (first second : List Effect) :
    starts (first ++ second) = starts first ++ starts second := by
  simp [starts]

/-- Effects of one kind contribute nothing to a reading that skips the kind. -/
theorem filterMap_map_eq_nil {α β : Type} (pick : Effect → Option β) (make : α → Effect)
    (skips : ∀ value, pick (make value) = none) (values : List α) :
    (values.map make).filterMap pick = [] := by
  apply List.filterMap_eq_nil_iff.mpr
  intro effect member
  rcases List.mem_map.mp member with ⟨value, _, same⟩
  exact same ▸ skips value

/-- Effects of the kind that is read are all read, in order. -/
theorem filterMap_map_eq_self {α : Type} (pick : Effect → Option α) (make : α → Effect)
    (reads : ∀ value, pick (make value) = some value) (values : List α) :
    (values.map make).filterMap pick = values := by
  rw [List.filterMap_map, show pick ∘ make = some from funext reads, List.filterMap_some]

/-! ### What the readings find

These are simp lemmas, so that what an operation does is read off its effects
by `simp` once the operation is opened: several effects of one kind are read as
a whole, a single one by its constructor. -/

attribute [simp] publication? resolution? handover? launch?

@[simp] theorem read_nil :
    publications [] = [] ∧ resolutions [] = [] ∧ handovers [] = [] ∧ launches [] = [] :=
  ⟨rfl, rfl, rfl, rfl⟩

@[simp] theorem read_cons (effect : Effect) (rest : List Effect) :
    publications (effect :: rest) = effect.publication?.toList ++ publications rest ∧
      resolutions (effect :: rest) = effect.resolution?.toList ++ resolutions rest ∧
      handovers (effect :: rest) = effect.handover?.toList ++ handovers rest ∧
      launches (effect :: rest) = effect.launch?.toList ++ launches rest := by
  cases effect <;> exact ⟨rfl, rfl, rfl, rfl⟩

@[simp] theorem read_resolved (told : List Resolution) :
    publications (told.map resolved) = [] ∧ resolutions (told.map resolved) = told ∧
      handovers (told.map resolved) = [] ∧ launches (told.map resolved) = [] :=
  ⟨filterMap_map_eq_nil _ _ (fun _ => rfl) _,
    filterMap_map_eq_self resolution? resolved (fun _ => rfl) _,
    filterMap_map_eq_nil _ _ (fun _ => rfl) _, filterMap_map_eq_nil _ _ (fun _ => rfl) _⟩

@[simp] theorem read_published (sent : List Publication) :
    publications (sent.map published) = sent ∧ resolutions (sent.map published) = [] ∧
      handovers (sent.map published) = [] ∧ launches (sent.map published) = [] :=
  ⟨filterMap_map_eq_self publication? published (fun _ => rfl) _,
    filterMap_map_eq_nil _ _ (fun _ => rfl) _, filterMap_map_eq_nil _ _ (fun _ => rfl) _,
    filterMap_map_eq_nil _ _ (fun _ => rfl) _⟩

/-- The offer of a job is a handover, whether it is accepted or not. -/
@[simp] theorem read_offered (generations : List Nat) (job : Job) (accepted : Bool) :
    let offers := generations.map (dispatched · job accepted)
    publications offers = [] ∧ resolutions offers = [] ∧
      handovers offers = generations.map (⟨·, job, accepted⟩) ∧ launches offers = [] := by
  refine ⟨filterMap_map_eq_nil _ _ (fun _ => rfl) _, filterMap_map_eq_nil _ _ (fun _ => rfl) _,
    ?_, filterMap_map_eq_nil _ _ (fun _ => rfl) _⟩
  rw [handovers, List.filterMap_map]
  exact congrFun List.filterMap_eq_map generations

@[simp] theorem read_terminated (generations : List Nat) :
    let ends := generations.map terminated
    publications ends = [] ∧ resolutions ends = [] ∧ handovers ends = [] ∧ launches ends = [] :=
  ⟨filterMap_map_eq_nil _ _ (fun _ => rfl) _, filterMap_map_eq_nil _ _ (fun _ => rfl) _,
    filterMap_map_eq_nil _ _ (fun _ => rfl) _, filterMap_map_eq_nil _ _ (fun _ => rfl) _⟩

@[simp] theorem read_released (generations : List Nat) :
    let ends := generations.map released
    publications ends = [] ∧ resolutions ends = [] ∧ handovers ends = [] ∧ launches ends = [] :=
  ⟨filterMap_map_eq_nil _ _ (fun _ => rfl) _, filterMap_map_eq_nil _ _ (fun _ => rfl) _,
    filterMap_map_eq_nil _ _ (fun _ => rfl) _, filterMap_map_eq_nil _ _ (fun _ => rfl) _⟩

theorem mem_resolutions {effects : List Effect} {resolution : Resolution} :
    resolution ∈ resolutions effects ↔ resolved resolution ∈ effects := by
  constructor
  · intro member
    rcases List.mem_filterMap.mp member with ⟨effect, listed, read⟩
    cases effect <;> cases read
    exact listed
  · intro member
    exact List.mem_filterMap.mpr ⟨_, member, rfl⟩

theorem mem_handovers {effects : List Effect} {handover : Handover} :
    handover ∈ handovers effects ↔
      dispatched handover.generation handover.job handover.accepted ∈ effects := by
  constructor
  · intro member
    rcases List.mem_filterMap.mp member with ⟨effect, listed, read⟩
    cases effect <;> cases read
    exact listed
  · intro member
    exact List.mem_filterMap.mpr ⟨_, member, rfl⟩

end Effect

namespace Supervisor

theorem run_append (s : Supervisor) (first second : List (Verdict × Event)) :
    s.run (first ++ second) =
      (((s.run first).1.run second).1, (s.run first).2 ++ ((s.run first).1.run second).2) := by
  induction first generalizing s with
  | nil => rfl
  | cons entry rest inductionHypothesis =>
      rcases entry with ⟨verdict, event⟩
      simp only [List.cons_append, run, inductionHypothesis, List.append_assoc]

theorem run_singleton (s : Supervisor) (verdict : Verdict) (event : Event) :
    s.run [(verdict, event)] = s.step verdict event := by
  simp only [run, List.append_nil]

theorem step_of_halted (s : Supervisor) (halted : s.halted = true) (verdict : Verdict)
    (event : Event) : s.step verdict event = (s, event.unhandled) :=
  if_pos halted

theorem step_stop (s : Supervisor) (running : s.halted = false) (verdict : Verdict) :
    s.step verdict .stop = s.halt := by
  simp only [step, running, Bool.false_eq_true, if_false]

/-- Any event but the end is handled, and then one job may be handed over. -/
theorem step_of_ne_stop (s : Supervisor) (running : s.halted = false) (verdict : Verdict)
    {event : Event} (continues : event ≠ .stop) :
    s.step verdict event = (((s.handle verdict event).1.pump verdict).1,
      (s.handle verdict event).2 ++ ((s.handle verdict event).1.pump verdict).2) := by
  cases event with
  | stop => exact absurd rfl continues
  | _ => simp only [step, running, Bool.false_eq_true, if_false]

/-- A supervisor that has ended stays as it is and turns events away. -/
theorem run_of_halted (s : Supervisor) (halted : s.halted = true)
    (events : List (Verdict × Event)) :
    s.run events = (s, events.flatMap fun entry => entry.2.unhandled) := by
  induction events with
  | nil => rfl
  | cons entry rest inductionHypothesis =>
      rcases entry with ⟨verdict, event⟩
      simp only [run, s.step_of_halted halted, inductionHypothesis, List.flatMap_cons]

end Supervisor

/-- One step of a run: the events before it and the event handled in it.
Moments of one run are compared by the events before them, so two events that
look the same are two moments. -/
structure Moment where
  before : List (Verdict × Event)
  verdict : Verdict
  event : Event

namespace Moment

/-- The events up to this moment, its own included. -/
def through (moment : Moment) : List (Verdict × Event) :=
  moment.before ++ [(moment.verdict, moment.event)]

def state (moment : Moment) : Supervisor :=
  (Supervisor.initial.run moment.before).1

def next (moment : Moment) : Supervisor :=
  (moment.state.step moment.verdict moment.event).1

def effects (moment : Moment) : List Effect :=
  (moment.state.step moment.verdict moment.event).2

/-- After the end an event is turned away, and its waiter at most is told. -/
theorem turned_away {moment : Moment} (ended : moment.state.halted = true) :
    moment.next = moment.state ∧ Effect.publications moment.effects = [] ∧
      Effect.handovers moment.effects = [] ∧ Effect.launches moment.effects = [] := by
  rw [next, effects, moment.state.step_of_halted ended]
  cases moment.event with
  | submit request waiter => cases waiter <;> exact ⟨rfl, rfl, rfl, rfl⟩
  | _ => exact ⟨rfl, rfl, rfl, rfl⟩

/-- The moment is one of the steps of a run. -/
def In (moment : Moment) (events : List (Verdict × Event)) : Prop :=
  moment.through <+: events

/-- Both moments belong to one run, in which the first comes earlier. -/
def Precedes (first second : Moment) : Prop :=
  first.In second.before

theorem run_through (moment : Moment) :
    Supervisor.initial.run moment.through =
      (moment.next, (Supervisor.initial.run moment.before).2 ++ moment.effects) := by
  rw [through, Supervisor.run_append, Supervisor.run_singleton]
  rfl

theorem in_through (moment : Moment) : moment.In moment.through :=
  List.prefix_rfl

theorem In.append {moment : Moment} {events : List (Verdict × Event)} (inside : moment.In events)
    (later : List (Verdict × Event)) : moment.In (events ++ later) :=
  inside.trans (List.prefix_append events later)

theorem Precedes.in_through {first second : Moment} (order : first.Precedes second) :
    first.In second.through :=
  In.append order _

theorem Precedes.trans {first second third : Moment} (early : first.Precedes second)
    (late : second.In third.before) : first.Precedes third :=
  early.in_through.trans late

theorem not_in_nil (moment : Moment) : ¬ moment.In [] := by
  intro inside
  have empty := List.prefix_nil.mp inside
  simp [through] at empty

/-- A step of a run that ends with a moment is that moment or an earlier one. -/
theorem in_through_iff (moment last : Moment) :
    moment.In last.through ↔ moment.Precedes last ∨ moment = last := by
  constructor
  · intro inside
    rcases List.prefix_concat_iff.mp inside with same | earlier
    · have parts := List.append_inj' same rfl
      apply Or.inr
      rcases moment with ⟨before, verdict, event⟩
      rcases last with ⟨before', verdict', event'⟩
      cases parts.1
      cases parts.2
      rfl
    · exact Or.inl earlier
  · rintro (earlier | same)
    · exact earlier.in_through
    · exact same ▸ last.in_through

theorem not_precedes_self (moment : Moment) : ¬ moment.Precedes moment := by
  intro order
  have shorter := order.length_le
  simp only [through, List.length_append, List.length_singleton] at shorter
  omega

/-- A step of a run is not among those that end with an earlier one. -/
theorem not_in_of_precedes {first second : Moment} (order : first.Precedes second) :
    ¬ second.In first.through := by
  intro inside
  rcases (in_through_iff second first).mp inside with earlier | same
  · exact first.not_precedes_self (order.trans earlier)
  · exact first.not_precedes_self (same ▸ order)

/-- Two steps of one run are the same, or one comes before the other. -/
theorem trichotomy {first second : Moment} {events : List (Verdict × Event)}
    (left : first.In events) (right : second.In events) :
    first.Precedes second ∨ first = second ∨ second.Precedes first := by
  rcases List.prefix_or_prefix_of_prefix left right with shorter | longer
  · rcases (in_through_iff first second).mp shorter with earlier | same
    · exact Or.inl earlier
    · exact Or.inr (Or.inl same)
  · rcases (in_through_iff second first).mp longer with earlier | same
    · exact Or.inr (Or.inr earlier)
    · exact Or.inr (Or.inl same.symm)

/-- What holds at the beginning and after each step that it holds before, holds
after every run.  The induction takes the steps from the last one backwards. -/
theorem induction {P : List (Verdict × Event) → Supervisor → Prop} (start : P [] .initial)
    (step : ∀ moment : Moment, P moment.before moment.state → P moment.through moment.next)
    (events : List (Verdict × Event)) : P events (Supervisor.initial.run events).1 := by
  induction events using List.reverseRecOn with
  | nil => exact start
  | append_singleton before entry inductionHypothesis =>
      have following := step ⟨before, entry.1, entry.2⟩ inductionHypothesis
      have stepped := congrArg Prod.fst (run_through ⟨before, entry.1, entry.2⟩)
      exact stepped ▸ following

/-- What a run does is what its steps do. -/
theorem mem_effects_iff (effect : Effect) (events : List (Verdict × Event)) :
    effect ∈ (Supervisor.initial.run events).2 ↔
      ∃ moment : Moment, moment.In events ∧ effect ∈ moment.effects := by
  refine induction (P := fun events _ => effect ∈ (Supervisor.initial.run events).2 ↔
      ∃ moment : Moment, moment.In events ∧ effect ∈ moment.effects) ?_ ?_ events
  · constructor
    · intro member
      cases member
    · rintro ⟨moment, inside, _⟩
      exact absurd inside moment.not_in_nil
  · intro last inductionHypothesis
    rw [run_through, List.mem_append, inductionHypothesis]
    constructor
    · rintro (⟨moment, inside, member⟩ | member)
      · exact ⟨moment, inside.append _, member⟩
      · exact ⟨last, last.in_through, member⟩
    · rintro ⟨moment, inside, member⟩
      rcases (in_through_iff moment last).mp inside with earlier | same
      · exact Or.inl ⟨moment, earlier, member⟩
      · exact Or.inr (same ▸ member)

end Moment
end CompilerRelay
