import CompilerRelay.Compiler.Child
import CompilerRelay.Proofs.Compiler.Input
import CompilerRelay.Proofs.Supervisor.Moment
import Mathlib.Logic.Relation

/-!
# Worlds that feed compilers

A compiler takes a job before its line is written.  The line is written later, by
a writer that works by itself between any two events, and a write that fails
ends the writer and nothing else.  All that is known of the failure is that the
input of the compiler is broken (`Inputs.Broken`), and it remains so.

`World.Feeds` says of a world that it keeps the inputs of its compilers in this
way, whatever else it does.  The world of running programs is one of them
(`Workshop.feeds`).
-/

namespace CompilerRelay

open Compiler Effect

/-! ## The inputs of several compilers -/

namespace Compiler
namespace Input

/-- A writer takes a line, writes some bytes, or fails to. -/
inductive Writes (input : Input) : Input → Prop
  | take : Writes input input.take
  | put (count : Nat) : Writes input (input.put count)
  | fail : Writes input input.fail

/-- A writer that has stopped does not begin again. -/
theorem Writes.broken {input after : Input} (writes : input.Writes after)
    (stopped : input.broken = true) : after.broken = true := by
  cases writes with
  | take => exact (input.broken_perform .take).mpr (.inl stopped)
  | put count => exact stopped
  | fail => rfl

theorem writes_writeNext (accepts : Bool) (input : Input) :
    Relation.ReflTransGen Writes input (input.writeNext accepts) := by
  have taken : Relation.ReflTransGen Writes input input.take := .single .take
  rw [writeNext]
  by_cases idle : input.take.hand.isEmpty = true
  · rw [if_pos idle]
    exact taken
  · rw [if_neg idle]
    cases accepts with
    | false => exact taken.tail .fail
    | true => exact taken.tail (.put _)

theorem writes_writeAll (accepts : Bool) (input : Input) :
    Relation.ReflTransGen Writes input (input.writeAll accepts) := by
  rw [writeAll]
  generalize input.waiting = waiting
  induction waiting generalizing input with
  | nil => exact .refl
  | cons line rest inductionHypothesis =>
      exact (writes_writeNext accepts input).trans (inductionHypothesis _)

end Input
end Compiler

/-- The inputs of the compilers that were started, the latest first.  Compilers
that have ended are kept, since their writers may still be at work. -/
abbrev Inputs := List (Nat × Input)

namespace Inputs

/-- Let something happen to the input of a generation. -/
def alter (generation : Nat) (change : Input → Input) : Inputs → Inputs
  | [] => []
  | entry :: rest =>
    if entry.1 = generation then (entry.1, change entry.2) :: rest
    else entry :: alter generation change rest

/-- A write to the compiler of the generation has failed. -/
def Broken (inputs : Inputs) (generation : Nat) : Prop :=
  ∃ input, (generation, input) ∈ inputs ∧ input.broken = true

def generations (inputs : Inputs) : List Nat :=
  inputs.map Prod.fst

/-- One of the writers does one thing. -/
inductive Writes : Inputs → Inputs → Prop
  | here {generation : Nat} {input after : Input} (rest : Inputs) (writes : input.Writes after) :
      Writes ((generation, input) :: rest) ((generation, after) :: rest)
  | there (entry : Nat × Input) {rest others : Inputs} (writes : Writes rest others) :
      Writes (entry :: rest) (entry :: others)

/-- Writers go on for a while. -/
def Works : Inputs → Inputs → Prop :=
  Relation.ReflTransGen Writes

/-- The inputs right after an effect.  A compiler that is told to end has its
input left as it is, and only effects that succeeded count. -/
def heed (inputs : Inputs) : Effect → Inputs
  | .launched generation _ true => (generation, {}) :: inputs
  | .dispatched generation job true =>
    inputs.alter generation fun input => (input.perform (.offer job)).1
  | _ => inputs

variable {inputs after : Inputs} {generation : Nat}

theorem generations_alter (speaker : Nat) (change : Input → Input) (inputs : Inputs) :
    (inputs.alter speaker change).generations = inputs.generations := by
  induction inputs with
  | nil => rfl
  | cons entry rest inductionHypothesis =>
      rw [alter]
      split
      · rfl
      · exact congrArg (entry.1 :: ·) inductionHypothesis

/-- What was broken stays so, whatever is offered to it or to others. -/
theorem Broken.alter (broken : Broken inputs generation) (speaker : Nat) (work : Input.Work) :
    Broken (inputs.alter speaker fun input => (input.perform work).1) generation := by
  rcases broken with ⟨input, listed, stopped⟩
  induction inputs with
  | nil => cases listed
  | cons entry rest inductionHypothesis =>
      rw [Inputs.alter]
      by_cases here : entry.1 = speaker
      · rw [if_pos here]
        rcases List.mem_cons.mp listed with rfl | later
        · exact ⟨_, List.mem_cons_self, (input.broken_perform work).mpr (.inl stopped)⟩
        · exact ⟨input, List.mem_cons_of_mem _ later, stopped⟩
      · rw [if_neg here]
        rcases List.mem_cons.mp listed with rfl | later
        · exact ⟨input, List.mem_cons_self, stopped⟩
        · rcases inductionHypothesis later with ⟨other, found, ended⟩
          exact ⟨other, List.mem_cons_of_mem _ found, ended⟩

theorem Writes.generations (writes : Writes inputs after) :
    after.generations = inputs.generations := by
  induction writes with
  | here => rfl
  | there entry _ inductionHypothesis => exact congrArg (entry.1 :: ·) inductionHypothesis

theorem Writes.broken (writes : Writes inputs after) (broken : Broken inputs generation) :
    Broken after generation := by
  rcases broken with ⟨input, listed, stopped⟩
  induction writes with
  | here rest writes =>
      rcases List.mem_cons.mp listed with same | later
      · cases same
        exact ⟨_, List.mem_cons_self, writes.broken stopped⟩
      · exact ⟨input, List.mem_cons_of_mem _ later, stopped⟩
  | there entry _ inductionHypothesis =>
      rcases List.mem_cons.mp listed with same | later
      · exact ⟨input, same ▸ List.mem_cons_self, stopped⟩
      · rcases inductionHypothesis later with ⟨other, found, ended⟩
        exact ⟨other, List.mem_cons_of_mem _ found, ended⟩

theorem Works.generations (works : Works inputs after) :
    after.generations = inputs.generations := by
  induction works with
  | refl => rfl
  | tail _ last inductionHypothesis => exact last.generations.trans inductionHypothesis

theorem Works.broken (works : Works inputs after) (broken : Broken inputs generation) :
    Broken after generation := by
  induction works with
  | refl => exact broken
  | tail _ last inductionHypothesis => exact last.broken inductionHypothesis

theorem Works.here {input changed : Input}
    (writes : Relation.ReflTransGen Input.Writes input changed) (rest : Inputs) :
    Works ((generation, input) :: rest) ((generation, changed) :: rest) := by
  induction writes with
  | refl => exact .refl
  | tail _ last inductionHypothesis => exact inductionHypothesis.tail (.here rest last)

theorem Works.there (works : Works inputs after) (entry : Nat × Input) :
    Works (entry :: inputs) (entry :: after) := by
  induction works with
  | refl => exact .refl
  | tail _ last inductionHypothesis => exact inductionHypothesis.tail (.there entry last)

theorem generations_heed (inputs : Inputs) (effect : Effect) :
    (inputs.heed effect).generations = starts [effect] ++ inputs.generations := by
  cases effect with
  | launched generation settings success => cases success <;> rfl
  | dispatched generation job accepted =>
      cases accepted with
      | true => exact generations_alter _ _ _
      | false => rfl
  | _ => rfl

theorem Broken.heed (broken : Broken inputs generation) (effect : Effect) :
    Broken (inputs.heed effect) generation := by
  rcases broken with ⟨input, listed, stopped⟩
  cases effect with
  | launched speaker settings success =>
      cases success with
      | true => exact ⟨input, List.mem_cons_of_mem _ listed, stopped⟩
      | false => exact ⟨input, listed, stopped⟩
  | dispatched speaker job accepted =>
      cases accepted with
      | true => exact Broken.alter ⟨input, listed, stopped⟩ speaker (.offer job)
      | false => exact ⟨input, listed, stopped⟩
  | _ => exact ⟨input, listed, stopped⟩

end Inputs

theorem Compiler.Workshop.failureOf?_eq_none {α : Type} {result : Except Failure α} :
    Workshop.failureOf? result = none ↔ ∃ value, result = .ok value := by
  cases result with
  | ok value => exact ⟨fun _ => ⟨value, rfl⟩, fun _ => rfl⟩
  | error failure => exact ⟨nofun, fun ⟨_, impossible⟩ => nomatch impossible⟩

/-! ## Worlds that feed compilers -/

open Inputs

/-- A world keeps inputs.  A job is offered to the latest compiler, effects are
heeded, and writers may go on meanwhile. -/
structure World.Feeds {σ : Type} (world : World σ) (inputs : σ → Inputs) : Prop where
  asks : ∀ state job, (world.verdict state).dispatch job = none ↔
    ∃ generation input rest after, inputs state = (generation, input) :: rest ∧
      input.offer job = .ok after
  /-- An effect of a launch that no verdict allows is no effect of the supervisor. -/
  heeds : ∀ state effect, (∀ generation settings, effect = .launched generation settings true →
      ∃ earlier, (world.verdict earlier).launch settings = none) →
    Works ((inputs state).heed effect) (inputs (world.react state effect).1)

namespace World.Feeds

variable {σ : Type} {world : World σ} {inputs : σ → Inputs}

/-- Every launch that succeeded was allowed. -/
def Allowed (world : World σ) (effects : List Effect) : Prop :=
  ∀ launch ∈ launches effects, launch.started = true →
    ∃ earlier, (world.verdict earlier).launch launch.settings = none

theorem allowed_cons {effect : Effect} {rest : List Effect}
    (allowed : Allowed world (effect :: rest)) :
    (∀ generation settings, effect = .launched generation settings true →
      ∃ earlier, (world.verdict earlier).launch settings = none) ∧ Allowed world rest := by
  have split : launches (effect :: rest) = launches [effect] ++ launches rest :=
    launches_append [effect] rest
  rw [Allowed, split] at allowed
  constructor
  · rintro generation settings rfl
    exact allowed ⟨generation, settings, true⟩ (List.mem_append_left _ List.mem_cons_self) rfl
  · exact fun launch listed => allowed launch (List.mem_append_right _ listed)

theorem generations_reactAll (feeds : world.Feeds inputs) {effects : List Effect}
    (allowed : Allowed world effects) (state : σ) :
    (inputs (world.reactAll state effects).1).generations =
      (starts effects).reverse ++ (inputs state).generations := by
  induction effects generalizing state with
  | nil => rfl
  | cons effect rest inductionHypothesis =>
      rcases allowed_cons allowed with ⟨here, later⟩
      have first := (feeds.heeds state effect here).generations
      have split : starts (effect :: rest) = starts [effect] ++ starts rest :=
        starts_append [effect] rest
      have single : (starts [effect]).reverse = starts [effect] := by
        cases effect with
        | launched generation settings success => cases success <;> rfl
        | _ => rfl
      rw [World.reactAll]
      simp only [inductionHypothesis later, first, generations_heed, split, List.reverse_append,
        single, List.append_assoc]

theorem broken_reactAll (feeds : world.Feeds inputs) {effects : List Effect}
    (allowed : Allowed world effects) (state : σ) {generation : Nat}
    (broken : Broken (inputs state) generation) :
    Broken (inputs (world.reactAll state effects).1) generation := by
  induction effects generalizing state with
  | nil => exact broken
  | cons effect rest inductionHypothesis =>
      rcases allowed_cons allowed with ⟨here, later⟩
      have still := (feeds.heeds state effect here).broken (broken.heed effect)
      exact inductionHypothesis later _ still

end World.Feeds

/-! ## Running programs -/

namespace Compiler
namespace Workshop

def inputs (workshop : Workshop) : Inputs :=
  workshop.map fun child => (child.generation, child.input)

/-- The input of a child changes, and what it tells changes none. -/
theorem works_advance {change : Child → Child} {first : Input → Input}
    (kept : ∀ child, (change child).generation = child.generation)
    (follows : ∀ child, Relation.ReflTransGen Input.Writes (first child.input) (change child).input)
    (generation : Nat) (workshop : Workshop) :
    Works ((inputs workshop).alter generation first)
      (inputs (advance generation change workshop).1) := by
  induction workshop with
  | nil => exact .refl
  | cons child rest inductionHypothesis =>
      change Works (if child.generation = generation then
        (child.generation, first child.input) :: inputs rest else _) _
      rw [advance]
      split
      · change Works _ (((change child).generation, (change child).input) :: inputs rest)
        rw [kept child]
        exact Works.here (follows child) _
      · exact inductionHypothesis.there _

theorem alter_id (inputs : Inputs) (generation : Nat) : inputs.alter generation id = inputs := by
  induction inputs with
  | nil => rfl
  | cons entry rest inductionHypothesis =>
      rw [alter, inductionHypothesis]
      exact ite_self _

theorem works_kill (generation : Nat) (workshop : Workshop) :
    Works (inputs workshop) (inputs (advance generation Child.kill workshop).1) := by
  have works := @works_advance Child.kill id (fun _ => rfl) (fun _ => .refl) generation workshop
  rwa [alter_id] at works

/-- Whether a program can be started does not depend on its number. -/
theorem start_of_allowed {settings : LaunchSettings}
    (allowed : failureOf? (Child.start 0 settings) = none) (generation : Nat) :
    ∃ program, Child.start generation settings = .ok { generation, program } := by
  rw [Child.start] at allowed
  cases launched : Toolbox.launch settings with
  | error failure =>
      rw [launched] at allowed
      cases allowed
  | ok program => exact ⟨program, by rw [Child.start, launched]; rfl⟩

/-- A child that is offered a job takes it or not, and then writes. -/
theorem offer_write (child : Child) (job : Job) :
    ((child.offer job).toOption.getD child).write.generation = child.generation ∧
      Relation.ReflTransGen Input.Writes (child.input.perform (.offer job)).1
        ((child.offer job).toOption.getD child).write.input := by
  rw [Input.perform, Child.offer]
  cases child.input.offer job with
  | error failure => exact ⟨rfl, Input.writes_writeAll _ _⟩
  | ok input => exact ⟨rfl, Input.writes_writeAll _ _⟩

/-- The world of running programs keeps inputs, and its writers write at once
what was taken. -/
theorem feeds : world.Feeds inputs where
  asks workshop job := by
    cases workshop with
    | nil => exact ⟨nofun, fun ⟨_, _, _, _, impossible, _⟩ => nomatch impossible⟩
    | cons child rest =>
        change failureOf? ((child.input.offer job).map fun input => { child with input }) = none ↔ _
        rw [failureOf?_eq_none]
        constructor
        · rintro ⟨after, taken⟩
          cases offered : child.input.offer job with
          | error failure =>
              rw [offered] at taken
              cases taken
          | ok input => exact ⟨child.generation, child.input, inputs rest, input, rfl, offered⟩
        · rintro ⟨_, _, _, after, ⟨⟩, taken⟩
          exact ⟨_, congrArg _ taken⟩
  heeds workshop effect allowed := by
    cases effect with
    | launched generation settings success =>
        cases success with
        | false => exact .refl
        | true =>
            rcases allowed generation settings rfl with ⟨earlier, allowed⟩
            rcases start_of_allowed allowed generation with ⟨program, started⟩
            have launched : inputs (react workshop (.launched generation settings true)).1 =
                (generation, {}) :: inputs workshop := by
              simp only [react, started, advance, if_true]
              rfl
            exact launched ▸ .refl
    | dispatched generation job accepted =>
        cases accepted with
        | false => exact .refl
        | true =>
            exact works_advance (fun child => (offer_write child job).1)
              (fun child => (offer_write child job).2) generation workshop
    | terminated generation => exact works_kill generation workshop
    | released generation => exact works_kill generation workshop
    | _ => exact .refl

end Workshop
end Compiler

end CompilerRelay
