import CompilerRelay.Proofs.Supervisor.Dispatch

/-!
# Which compiler has a job

A job is `Sent` when a compiler took it.  The job in flight is more than that:
it is with the compiler of the current generation, which has neither ended it
since nor said anything that could not be read (`Carries`).  So the first
thing the compiler says about a job is said while the job is in flight, or
after the compiler was given up.
-/

namespace CompilerRelay

open Effect

namespace Moment

/-- The compiler of a generation took a job.  A job that was offered and refused
was not sent. -/
def Sent (events : List (Verdict × Event)) (generation : Nat) (job : Job) : Prop :=
  ∃ moment : Moment, moment.In events ∧
    (⟨generation, job, true⟩ : Handover) ∈ handovers moment.effects

theorem Sent.extend {before events : List (Verdict × Event)} {generation : Nat} {job : Job}
    (sent : Sent before generation job) (longer : before <+: events) :
    Sent events generation job := by
  rcases sent with ⟨earlier, inside, given⟩
  exact ⟨earlier, inside.trans longer, given⟩

theorem Sent.through {moment : Moment} {generation : Nat} {job : Job}
    (sent : Sent moment.before generation job) : Sent moment.through generation job :=
  sent.extend (List.prefix_append _ _)

/-- There is no compiler before the first launch. -/
theorem Sent.positive {events : List (Verdict × Event)} {generation : Nat} {job : Job}
    (sent : Sent events generation job) : 1 ≤ generation := by
  rcases sent with ⟨moment, inside, given⟩
  rcases preserved_once.offered given with ⟨_, _, _, _, _, _, _, _, _, _, _, positive⟩
  exact positive

/-- A job that is taken is sent to the compiler of the current generation. -/
theorem taken_given {moment : Moment} {desk : Desk} (valid : desk.Valid) {generation : Nat}
    (held : desk.channel = some generation) {job : Job}
    (offered : handovers moment.effects = [⟨generation, job, true⟩]) :
    (⟨desk.generation, job, true⟩ : Handover) ∈ handovers moment.effects := by
  rw [offered, ← (valid.held _ held).1]
  exact List.mem_singleton_self _

/-- The compiler of a generation took a job, and has neither ended it since nor
said anything that could not be read. -/
def Carries (heard done : List (Verdict × Event)) (generation : Nat) (job : Job) : Prop :=
  ∃ taken : Moment, taken.In done ∧
    (⟨generation, job, true⟩ : Handover) ∈ handovers taken.effects ∧
      ∀ other : Moment, other.In heard → taken.Precedes other →
        ¬ other.Concludes generation job.id

theorem Carries.sent {heard done : List (Verdict × Event)} {generation : Nat} {job : Job}
    (carries : Carries heard done generation job) : Sent done generation job := by
  rcases carries with ⟨taken, inside, given, _⟩
  exact ⟨taken, inside, given⟩

theorem Carries.handled {moment : Moment} {done : List (Verdict × Event)} {generation : Nat}
    {job : Job} (carries : Carries moment.before done generation job)
    (silent : ¬ moment.Concludes generation job.id) :
    Carries moment.through done generation job := by
  rcases carries with ⟨taken, inside, given, since⟩
  refine ⟨taken, inside, given, fun other within order => ?_⟩
  rcases (in_through_iff other moment).mp within with earlier | same
  · exact since other earlier order
  · exact same ▸ silent

/-- What is in flight is with the compiler of this generation. -/
theorem preserved_carried : Preserved fun heard done desk =>
    ∀ ticket, desk.jobs.inFlight = some ticket → Carries heard done desk.generation ticket.job where
  start := by
    intro ticket flying
    cases flying
  handles := by
    intro moment event between begun told happened launched handled invariant ticket flying
    have before := handled.flying_before flying
    cases handled.flies moment.desk_valid before with
    | carried _ generation silent =>
        rw [generation]
        refine (invariant ticket before).handled ?_
        rintro (⟨outcome, said⟩ | ⟨reason, said⟩)
        · have ignored := silent _ (happened.symm.trans said)
          rw [CompilerEvent.outcomeFor?, if_pos rfl] at ignored
          cases ignored
        · cases silent _ (happened.symm.trans said)
    | concluded landed =>
        rw [landed] at flying
        cases flying
    | lost landed =>
        rw [landed] at flying
        cases flying
  pumps := by
    intro moment between after given lost valid offered pumped invariant ticket flying
    cases pumped with
    | idle =>
        rcases invariant ticket flying with ⟨taken, inside, given, since⟩
        exact ⟨taken, inside.append _, given, since⟩
    | taken ready free split held accepts =>
        cases flying
        exact ⟨moment, moment.in_through, taken_given valid held offered,
          fun other inside order => absurd inside (not_in_of_precedes order)⟩
    | failed => cases flying

end Moment
end CompilerRelay
