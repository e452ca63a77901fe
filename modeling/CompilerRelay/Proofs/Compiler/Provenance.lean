import CompilerRelay.Proofs.Compiler.FailedWrite
import CompilerRelay.Proofs.Compiler.Output
import CompilerRelay.Proofs.Supervisor.Announcements
import CompilerRelay.Proofs.Supervisor.Outcomes

/-!
# Where the events of compilers come from

A run is any list of events, so it may contain what no compiler can tell: an
event of a generation that no launch has, an answer that a job was replaced, an
announcement of a phase.  Theorems about runs that have to exclude such events
do so by conditions on the list (`Stamped`, `Credible`, `Genuine`).

Here the conditions are derived.  The events of compilers reach the supervisor
through the event loop, where they are posted by the readers of compilers that
were started, one event for a line and one at the end of the output.  A run in
which they come from there is `Overheard`, and such a run meets all of the
conditions.  That the runs of the loop are overheard is an invariant of the loop
(`Provenance.Traced`): an event may wait for long, but the compiler that told it
was started before it was posted.
-/

namespace CompilerRelay

open Compiler Effect

/-! ## What compilers can tell -/

namespace CompilerEvent

/-- A line of output tells this, or the output has ended.  Which line that is,
and whose, is left open. -/
def Audible (said : CompilerEvent) : Prop :=
  said = .exited ∨ ∃ line, Output.eventOf line = some said

theorem audible_of_heard {stream : List UInt8} {said : CompilerEvent}
    (listed : said ∈ Output.heard stream) : said.Audible := by
  rcases List.mem_filterMap.mp listed with ⟨line, _, told⟩
  exact .inr ⟨line, told⟩

/-- All that a stream tells can be told. -/
theorem audible_of_events {stream : List UInt8} {said : CompilerEvent}
    (listed : said ∈ Output.events stream) : said.Audible := by
  rw [Output.events_eq] at listed
  rcases List.mem_append.mp listed with line | gone
  · rcases List.mem_filterMap.mp line with ⟨line, _, told⟩
    exact .inr ⟨line, told⟩
  · exact .inl (List.mem_singleton.mp gone)

theorem Audible.line_of_response {id : Nat} {outcome : Outcome}
    (audible : (CompilerEvent.response id outcome).Audible) :
    ∃ line, ofLine line = some (.response id outcome) := by
  rcases audible with gone | ⟨line, told⟩
  · cases gone
  · exact ⟨_, told⟩

theorem not_audible_status (phase : Phase) :
    ¬ (CompilerEvent.notification (.status phase)).Audible := by
  rintro (gone | ⟨line, told⟩)
  · cases gone
  · exact ofLine_ne_status _ phase told

end CompilerEvent

/-- If the event is a compiler's, that compiler is among those that speak, and
it can tell this. -/
def Event.Attested (speakers : List Nat) : Event → Prop
  | .compiler generation said => generation ∈ speakers ∧ said.Audible
  | _ => True

theorem Event.Attested.mono {speakers others : List Nat} {event : Event}
    (attested : event.Attested speakers) (more : speakers ⊆ others) : event.Attested others := by
  cases event with
  | compiler generation said => exact ⟨more attested.1, attested.2⟩
  | _ => trivial

/-- Whatever compilers do in a run was told by those that were started before.
Nothing is said about the order in which one of them tells it. -/
def Overheard (events : List (Verdict × Event)) : Prop :=
  ∀ moment : Moment, moment.In events →
    moment.event.Attested (starts (Supervisor.initial.run moment.before).2)

namespace Overheard

variable {events : List (Verdict × Event)} (overheard : Overheard events)
include overheard

theorem attested {verdict : Verdict} {event : Event} (listed : (verdict, event) ∈ events) :
    event.Attested (starts (Supervisor.initial.run events).2) := by
  rcases List.append_of_mem listed with ⟨before, after, rfl⟩
  have inside : (⟨before, verdict, event⟩ : Moment).In (before ++ (verdict, event) :: after) :=
    ⟨after, List.append_cons before _ after |>.symm⟩
  refine (overheard _ inside).mono fun generation started => ?_
  rw [Supervisor.run_append, starts_append]
  exact List.mem_append_left _ started

theorem stamped : Stamped events := by
  intro verdict generation said listed
  rcases List.mem_map.mp (overheard.attested listed).1 with ⟨launch, succeeded, same⟩
  exact ⟨launch, List.mem_of_mem_filter succeeded, same⟩

/-- Nothing announces itself for the generation that no launch has. -/
theorem unready (verdict : Verdict) : (verdict, Event.compiler 0 .ready) ∉ events :=
  overheard.stamped.unstamped verdict .ready

theorem credible : Credible events where
  stamped := overheard.stamped.unstamped
  relayed _ _ phase listed := CompilerEvent.not_audible_status phase (overheard.attested listed).2

theorem genuine : Genuine events :=
  fun _ _ _ _ listed => (overheard.attested listed).2.line_of_response

end Overheard

theorem overheard_nil : Overheard [] :=
  fun moment inside => absurd inside moment.not_in_nil

theorem Overheard.concat {before : List (Verdict × Event)} (overheard : Overheard before)
    {verdict : Verdict} {event : Event}
    (attested : event.Attested (starts (Supervisor.initial.run before).2)) :
    Overheard (before ++ [(verdict, event)]) := by
  intro moment inside
  rcases (Moment.in_through_iff moment ⟨before, verdict, event⟩).mp inside with earlier | rfl
  · exact overheard moment earlier
  · exact attested

/-! ## Worlds that pass on what compilers tell -/

/-- What is posted was told by these speakers, and who speaks next is one of
them. -/
structure Relayed (speakers next : List Nat) (posted : List Event) : Prop where
  joined : next ⊆ speakers
  attested : ∀ event ∈ posted, event.Attested speakers

theorem Relayed.mono {speakers others next : List Nat} {posted : List Event}
    (relayed : Relayed speakers next posted) (more : speakers ⊆ others) :
    Relayed others next posted where
  joined := List.Subset.trans relayed.joined more
  attested event listed := (relayed.attested event listed).mono more

theorem relayed_nil {speakers next : List Nat} (joined : next ⊆ speakers) :
    Relayed speakers next [] :=
  ⟨joined, fun _ listed => absurd listed List.not_mem_nil⟩

/-- A world whose compilers are started by effects, and which posts what they
tell and nothing else. -/
def World.Relays {σ : Type} (world : World σ) (speakers : σ → List Nat) : Prop :=
  ∀ state effect, Relayed (starts [effect] ++ speakers state)
    (speakers (world.react state effect).1) (world.react state effect).2

theorem World.Relays.reactAll {σ : Type} {world : World σ} {speakers : σ → List Nat}
    (relays : world.Relays speakers) (state : σ) (effects : List Effect) :
    Relayed (starts effects ++ speakers state) (speakers (world.reactAll state effects).1)
      (world.reactAll state effects).2 := by
  induction effects generalizing state with
  | nil => exact relayed_nil (List.Subset.refl _)
  | cons effect rest inductionHypothesis =>
      have split : starts (effect :: rest) = starts [effect] ++ starts rest :=
        starts_append [effect] rest
      have first := relays state effect
      have early : starts [effect] ++ speakers state ⊆
          starts (effect :: rest) ++ speakers state := by
        rw [split]
        grind
      have late : starts rest ⊆ starts (effect :: rest) ++ speakers state := by
        rw [split]
        grind
      have others := (inductionHypothesis (world.react state effect).1).mono
        (List.append_subset.mpr ⟨late, List.Subset.trans first.joined early⟩)
      refine ⟨others.joined, fun event listed => ?_⟩
      rcases List.mem_append.mp listed with now | later
      · exact (first.attested event now).mono early
      · exact others.attested event later

namespace Compiler
namespace Workshop

def speakers (workshop : Workshop) : List Nat :=
  workshop.map (·.generation)

theorem audible_of_told {child : Child} {said : CompilerEvent} (listed : said ∈ child.told) :
    said.Audible := by
  simp only [Child.told] at listed
  split at listed
  · exact CompilerEvent.audible_of_events listed
  · exact CompilerEvent.audible_of_heard listed

theorem relayed_advance {change : Child → Child}
    (kept : ∀ child, (change child).generation = child.generation) (generation : Nat)
    (workshop : Workshop) :
    Relayed (speakers workshop) (speakers (advance generation change workshop).1)
      (advance generation change workshop).2 := by
  induction workshop with
  | nil => exact relayed_nil (List.Subset.refl _)
  | cons child rest inductionHypothesis =>
      rw [advance]
      split
      · next same =>
          have listens : (change child).generation :: speakers rest = speakers (child :: rest) :=
            congrArg (· :: speakers rest) (kept child)
          refine ⟨fun _ listed => listens ▸ listed, fun event listed => ?_⟩
          rcases List.mem_map.mp listed with ⟨said, told, rfl⟩
          exact ⟨same ▸ List.mem_cons_self, audible_of_told (List.mem_of_mem_drop told)⟩
      · have others := inductionHypothesis.mono (List.subset_cons_self child.generation _)
        exact ⟨List.cons_subset.mpr ⟨List.mem_cons_self, others.joined⟩, others.attested⟩

/-- The world of running programs passes on what its children tell. -/
theorem relays : world.Relays speakers := by
  intro workshop effect
  cases effect with
  | launched generation settings success =>
      cases success with
      | false => exact relayed_nil (List.Subset.refl _)
      | true =>
          change Relayed _ (speakers (react workshop _).1) (react workshop _).2
          rw [react]
          cases begun : Child.start generation settings with
          | error failure => exact relayed_nil (List.subset_append_right _ _)
          | ok child =>
              have numbered : child.generation = generation := by
                rw [Child.start] at begun
                cases launched : Toolbox.launch settings with
                | error failure =>
                    rw [launched] at begun
                    cases begun
                | ok program =>
                    rw [launched] at begun
                    cases begun
                    rfl
              have relayed := @relayed_advance id (fun _ => rfl) generation (child :: workshop)
              rw [show speakers (child :: workshop) = generation :: speakers workshop from
                numbered ▸ rfl] at relayed
              exact relayed
  | dispatched generation job accepted =>
      cases accepted with
      | false => exact relayed_nil (List.Subset.refl _)
      | true => exact relayed_advance (fun child => (offer_write child job).1) generation workshop
  | terminated generation =>
      exact @relayed_advance Child.kill (fun _ => rfl) generation workshop
  | released generation =>
      exact @relayed_advance Child.kill (fun _ => rfl) generation workshop
  | _ => exact relayed_nil (List.Subset.refl _)

end Workshop
end Compiler

/-! ## Runs of the loop -/

namespace Provenance

variable {σ : Type} (world : World σ) (speakers : σ → List Nat)

/-- It comes to this loop, and these events were handled until then.  Whatever
is posted from outside is no compiler's, or one that was started tells it. -/
inductive Reaches : List (Verdict × Event) → EventLoop σ → Prop
  | initial {outside : σ} (nobody : speakers outside = []) : Reaches [] (.initial outside)
  | posted {handled : List (Verdict × Event)} {loop : EventLoop σ} (reaches : Reaches handled loop)
      {event : Event} (attested : event.Attested (speakers loop.outside)) :
      Reaches handled (loop.post event).1
  | turned {handled : List (Verdict × Event)} {loop next : EventLoop σ}
      (reaches : Reaches handled loop) {event : Event} {rest : List Event}
      (waits : loop.pending = event :: rest) {effects : List Effect}
      (turn : loop.turn world = some (next, effects)) :
      Reaches (handled ++ [(world.verdict loop.outside, event)]) next
  /-- The world goes on, and nobody is started meanwhile. -/
  | worked {handled : List (Verdict × Event)} {loop : EventLoop σ} (reaches : Reaches handled loop)
      {outside : σ} (same : speakers outside ⊆ speakers loop.outside) :
      Reaches handled { loop with outside }

/-- What waits was told by compilers that were started when it was posted.  The
events that were handled are those of a run of the supervisor, and the speakers
of the world were all started in it. -/
structure Traced (handled : List (Verdict × Event)) (loop : EventLoop σ) : Prop where
  ran : loop.supervisor = (Supervisor.initial.run handled).1
  started : speakers loop.outside ⊆ starts (Supervisor.initial.run handled).2
  waits : ∀ event ∈ loop.pending, event.Attested (starts (Supervisor.initial.run handled).2)
  overheard : Overheard handled

variable {world speakers} {handled : List (Verdict × Event)} {loop next : EventLoop σ}

/-- What the reader of a compiler posts. -/
theorem Reaches.emit (reaches : Reaches world speakers handled loop) {generation : Nat}
    (speaks : generation ∈ speakers loop.outside) {said : CompilerEvent}
    (audible : said.Audible) : Reaches world speakers handled (loop.emit generation said).1 := by
  rw [Feeding.emit_eq_post]
  exact reaches.posted ⟨speaks, audible⟩

/-- A reader that goes through all output posts nothing else. -/
theorem Reaches.relay {generation : Nat} {stream : List UInt8}
    (reaches : Reaches world speakers handled loop)
    (speaks : generation ∈ speakers loop.outside) :
    Reaches world speakers handled (Output.relay generation stream loop) := by
  fun_induction Output.relay generation stream loop with
  | case1 loop => exact reaches.emit speaks (.inl rfl)
  | case2 loop byte rest read silent inductionHypothesis =>
      exact inductionHypothesis reaches speaks
  | case3 loop byte rest read event heard told listening inductionHypothesis =>
      refine inductionHypothesis (reaches.emit speaks (.inr ⟨_, heard⟩)) ?_
      rw [Feeding.emit_eq_post, (Feeding.post_frame _).2.1]
      exact speaks
  | case4 loop byte rest read event heard =>
      exact reaches.emit speaks (.inr ⟨_, heard⟩)

theorem Traced.post (traced : Traced speakers handled loop) {event : Event}
    (attested : event.Attested (speakers loop.outside)) :
    Traced speakers handled (loop.post event).1 := by
  rcases @Feeding.post_frame _ loop event with ⟨supervisor, outside, pending⟩
  refine ⟨supervisor ▸ traced.ran, outside ▸ traced.started, fun other listed => ?_,
    traced.overheard⟩
  rcases pending other listed with before | rfl
  · exact traced.waits other before
  · exact attested.mono traced.started

/-- What was told before a turn was told by compilers that are started by then,
and a compiler that is started in the turn may tell something at once. -/
theorem Traced.turn (relays : world.Relays speakers) (traced : Traced speakers handled loop)
    {event : Event} {rest : List Event} (waits : loop.pending = event :: rest)
    {effects : List Effect} (turn : loop.turn world = some (next, effects)) :
    Traced speakers (handled ++ [(world.verdict loop.outside, event)]) next := by
  rcases Feeding.turn_eq turn with ⟨first, others, same, supervisor, done, pending, outside⟩
  cases waits.symm.trans same
  rw [traced.ran] at supervisor done
  have ran := (⟨handled, world.verdict loop.outside, event⟩ : Moment).run_through
  have begun : starts (Supervisor.initial.run
      (handled ++ [(world.verdict loop.outside, event)])).2 =
      starts (Supervisor.initial.run handled).2 ++ starts effects := by
    rw [done, ← starts_append]
    exact congrArg (starts ·.2) ran
  have joins : starts effects ++ speakers loop.outside ⊆
      starts (Supervisor.initial.run handled).2 ++ starts effects :=
    List.append_subset.mpr ⟨List.subset_append_right _ _,
      List.Subset.trans traced.started (List.subset_append_left _ _)⟩
  have relayed := (relays.reactAll loop.outside effects).mono joins
  rw [← begun] at relayed
  refine ⟨supervisor.trans (congrArg Prod.fst ran).symm, outside ▸ relayed.joined, ?_, ?_⟩
  · rw [pending]
    intro other listed
    rcases List.mem_append.mp listed with before | posted
    · refine (traced.waits other (waits ▸ List.mem_cons_of_mem event before)).mono ?_
      exact begun ▸ List.subset_append_left _ _
    · exact relayed.attested other posted
  · exact traced.overheard.concat (traced.waits event (waits ▸ List.mem_cons_self))

theorem Reaches.traced (relays : world.Relays speakers)
    (reaches : Reaches world speakers handled loop) : Traced speakers handled loop := by
  induction reaches with
  | @initial outside nobody =>
      refine ⟨rfl, ?_, fun _ listed => absurd listed List.not_mem_nil, overheard_nil⟩
      rw [show (EventLoop.initial outside).outside = outside from rfl, nobody]
      exact List.nil_subset _
  | posted reaches attested inductionHypothesis => exact inductionHypothesis.post attested
  | turned reaches waits turn inductionHypothesis => exact inductionHypothesis.turn relays waits turn
  | worked reaches same inductionHypothesis =>
      exact ⟨inductionHypothesis.ran, List.Subset.trans same inductionHypothesis.started,
        inductionHypothesis.waits, inductionHypothesis.overheard⟩

/-- What the loop handles was told by compilers that were started. -/
theorem overheard_of_reaches (relays : world.Relays speakers)
    (reaches : Reaches world speakers handled loop) : Overheard handled :=
  (reaches.traced relays).overheard

end Provenance

/-- With running programs for compilers, every run meets the conditions. -/
theorem Compiler.Workshop.conditions {handled : List (Verdict × Event)}
    {loop : EventLoop Workshop}
    (reaches : Provenance.Reaches Workshop.world Workshop.speakers handled loop) :
    Stamped handled ∧ Credible handled ∧ Genuine handled ∧
      ∀ verdict, (verdict, Event.compiler 0 .ready) ∉ handled := by
  have overheard := Provenance.overheard_of_reaches Workshop.relays reaches
  exact ⟨overheard.stamped, overheard.credible, overheard.genuine, overheard.unready⟩

end CompilerRelay
