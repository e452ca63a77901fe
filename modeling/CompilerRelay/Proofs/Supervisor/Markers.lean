import CompilerRelay.Proofs.Ledger
import CompilerRelay.Proofs.Supervisor.Moment

/-!
# The editor shows what the ledger holds

The supervisor sends publications on three paths: a report, the dispatch of a
job about the whole project, and a restart.  Each of them goes through an
operation of the ledger that `Ledger.Updates` describes, and every other path
leaves ledger and editor alone (`Silent`).  `Informs` says this of a part of a
step, and the parts compose.

The statement about runs quantifies over the verdicts as well, so launches and
dispatches fail in any pattern.
-/

namespace CompilerRelay
namespace Supervisor

open Effect

/-- Neither does the ledger change, nor is any diagnostic sent. -/
def Silent (s : Supervisor) (done : Supervisor × List Effect) : Prop :=
  done.1.ledger = s.ledger ∧ publications done.2 = []

/-! ## What is sent -/

@[simp] theorem publications_compilerGone (s : Supervisor) :
    publications s.compilerGone.2 = [] := by
  simp [compilerGone]

/-- A launch that fails leaves the ledger alone, like one that succeeds. -/
@[simp] theorem ledger_start (s : Supervisor) (verdict : Verdict) (settings : Settings) :
    (s.start verdict settings).1.ledger = s.ledger := by
  unfold start
  cases verdict.launch settings.compiler <;> rfl

@[simp] theorem publications_start (s : Supervisor) (verdict : Verdict) (settings : Settings) :
    publications (s.start verdict settings).2 = [] := by
  unfold start
  cases verdict.launch settings.compiler <;> simp

theorem start_silent (s : Supervisor) (verdict : Verdict) (settings : Settings) :
    s.Silent (s.start verdict settings) :=
  ⟨s.ledger_start verdict settings, s.publications_start verdict settings⟩

theorem halt_silent (s : Supervisor) : s.Silent s.halt := by
  simp [Silent, halt]

/-- A restart takes everything back and sends nothing else. -/
theorem restart_withdrawn (s : Supervisor) (verdict : Verdict) (settings : Settings) :
    (s.restart verdict settings).1.ledger = s.withdraw.1.ledger ∧
      publications (s.restart verdict settings).2 = publications s.withdraw.2 := by
  simp [restart, withdraw, apply_ite publications]

/-! ## Ledger and editor -/

/-- What is done to the ledger and what the editor is sent fit together.  The
relation composes, so it is proved of each operation by itself and holds of
every run. -/
def Informs (s : Supervisor) (done : Supervisor × List Effect) : Prop :=
  s.ledger.Updates (publications done.2) done.1.ledger

section

variable (s : Supervisor) (wellFormed : s.ledger.WellFormed) (verdict : Verdict)

include wellFormed

/-- What does not concern the editor's markers at all. -/
theorem informs_of_silent {done : Supervisor × List Effect} (silent : s.Silent done) :
    s.Informs done := by
  unfold Informs
  rw [silent.1, silent.2]
  exact Ledger.Updates.refl s.ledger wellFormed

theorem withdraw_informs : s.Informs s.withdraw := by
  simpa [Informs, withdraw] using s.ledger.clear_updates wellFormed

theorem publish_informs (report : Report) : s.Informs (s.publish report) := by
  simpa [Informs, publish] using s.ledger.publishAll_updates wellFormed _

theorem restart_informs (settings : Settings) : s.Informs (s.restart verdict settings) := by
  have withdrawn := s.withdraw_informs wellFormed
  rcases s.restart_withdrawn verdict settings with ⟨ledger, sent⟩
  unfold Informs at withdrawn ⊢
  rw [ledger, sent]
  exact withdrawn

theorem absorb_informs (job : Job) (outcome : Outcome) : s.Informs (s.absorb job outcome) := by
  cases outcome with
  | ok answer =>
      by_cases reports : job.kind.reports = true
      · cases read : Report.ofAnswer answer with
        | ok report =>
            simp only [absorb, if_pos reports, read]
            exact s.publish_informs wellFormed report
        | error error =>
            simp only [absorb, if_pos reports, read]
            exact s.informs_of_silent wellFormed ⟨rfl, rfl⟩
      · simp only [absorb, if_neg reports]
        exact s.informs_of_silent wellFormed ⟨rfl, rfl⟩
  | error error =>
      cases error <;> exact s.informs_of_silent wellFormed ⟨rfl, rfl⟩

theorem conclude_informs (id : Nat) (outcome : Outcome) : s.Informs (s.conclude id outcome) := by
  cases completed : s.jobs.complete id outcome with
  | none =>
      simp only [conclude, completed]
      exact s.informs_of_silent wellFormed ⟨rfl, rfl⟩
  | some done =>
      have absorbed := absorb_informs { s with jobs := done.jobs } wellFormed done.job outcome
      simpa [Informs, conclude, completed] using absorbed

theorem onCompilerEvent_informs (event : CompilerEvent) :
    s.Informs (s.onCompilerEvent event) := by
  cases event with
  | ready =>
      simp only [onCompilerEvent]
      by_cases marked : s.jobs.markReady.2 = true
      · rw [if_pos marked]
        exact s.informs_of_silent wellFormed ⟨rfl, rfl⟩
      · rw [if_neg marked]
        by_cases gone : s.jobs.phase = .exited
        · rw [if_pos gone]
          exact s.informs_of_silent wellFormed ⟨rfl, rfl⟩
        · rw [if_neg gone]
          exact s.informs_of_silent wellFormed ⟨rfl, rfl⟩
  | response id outcome => exact s.conclude_informs wellFormed id outcome
  | unmatched reason =>
      cases flying : s.jobs.inFlightId with
      | none =>
          simp only [onCompilerEvent, flying]
          exact s.informs_of_silent wellFormed ⟨rfl, rfl⟩
      | some id =>
          simp only [onCompilerEvent, flying]
          exact s.conclude_informs wellFormed id (.error (.garbled reason))
  | notification notice => exact s.informs_of_silent wellFormed ⟨rfl, rfl⟩
  | exited =>
      refine s.informs_of_silent wellFormed ⟨rfl, ?_⟩
      cases farewell : s.closing <;> simp [onCompilerEvent, farewell]

theorem handle_informs (event : Event) : s.Informs (s.handle verdict event) := by
  cases event with
  | launch settings =>
      simp only [handle]
      by_cases first : s.generation = 0
      · rw [if_pos first]
        exact s.informs_of_silent wellFormed (s.start_silent verdict settings)
      · rw [if_neg first]
        exact s.informs_of_silent wellFormed ⟨rfl, rfl⟩
  | restart settings => exact s.restart_informs wellFormed verdict settings
  | submit request waiter =>
      exact s.informs_of_silent wellFormed ⟨rfl, (read_resolved _).1⟩
  | compiler generation event =>
      simp only [handle]
      by_cases current : generation = s.generation
      · rw [if_pos current]
        exact s.onCompilerEvent_informs wellFormed event
      · rw [if_neg current]
        exact s.informs_of_silent wellFormed ⟨rfl, rfl⟩
  | status waiter => exact s.informs_of_silent wellFormed ⟨rfl, rfl⟩
  | stop => exact s.informs_of_silent wellFormed ⟨rfl, rfl⟩

/-- A job about the whole project withdraws everything, but only once the
compiler has taken it. -/
theorem pump_informs : s.Informs (s.pump verdict) := by
  have offer := fun job accepted => (read_offered s.channel.toList job accepted).1
  cases driven : s.jobs.drive with
  | none =>
      simp only [pump, driven]
      exact s.informs_of_silent wellFormed ⟨rfl, rfl⟩
  | some next =>
      rcases next with ⟨job, jobs⟩
      simp only [pump, driven]
      cases refused : s.refusal? verdict job with
      | some cause =>
          refine s.informs_of_silent wellFormed ⟨rfl, ?_⟩
          simp
      | none =>
          have withdrawn := withdraw_informs { s with jobs } wellFormed
          cases job.kind.category with
          | workspace => simpa [Informs] using withdrawn
          | lifecycle => exact s.informs_of_silent wellFormed ⟨rfl, offer job true⟩
          | recompile => exact s.informs_of_silent wellFormed ⟨rfl, offer job true⟩
          | query => exact s.informs_of_silent wellFormed ⟨rfl, offer job true⟩

theorem step_informs (event : Event) : s.Informs (s.step verdict event) := by
  cases ended : s.halted with
  | true =>
      rw [s.step_of_halted ended]
      refine s.informs_of_silent wellFormed ⟨rfl, ?_⟩
      cases event with
      | submit request waiter => cases waiter <;> rfl
      | _ => rfl
  | false =>
      by_cases last : event = .stop
      · subst event
        rw [s.step_stop ended]
        exact s.informs_of_silent wellFormed s.halt_silent
      · rw [s.step_of_ne_stop ended verdict last]
        have handled := s.handle_informs wellFormed verdict event
        unfold Informs
        rw [publications_append]
        exact handled.trans (pump_informs _ handled.wellFormed verdict)

theorem run_informs (events : List (Verdict × Event)) : s.Informs (s.run events) := by
  induction events generalizing s with
  | nil => exact s.informs_of_silent wellFormed ⟨rfl, rfl⟩
  | cons entry rest inductionHypothesis =>
      rcases entry with ⟨verdict, event⟩
      have first := s.step_informs wellFormed verdict event
      have others := inductionHypothesis (s.step verdict event).1 first.wellFormed
      unfold Informs
      simp only [run, publications_append]
      exact first.trans others

end

/-- After every run the editor shows for each document what the ledger holds
for it, and nothing for a document that is not tracked.  The ledger holds no
empty list, and no retraction is sent for a document that shows nothing. -/
theorem markers_agree_with_ledger (events : List (Verdict × Event)) :
    let ran := Supervisor.initial.run events
    (∀ uri, Markers.after (publications ran.2) uri = (ran.1.ledger.get? uri).getD []) ∧
      (∀ entry ∈ ran.1.ledger.entries, entry.2 ≠ []) ∧
      ∀ early publication late, publications ran.2 = early ++ publication :: late →
        publication.isRetraction = true → Markers.after early publication.uri ≠ [] := by
  have informed := Supervisor.initial.run_informs Ledger.empty_wellFormed events
  have nothing : Supervisor.initial.ledger.markers = fun _ => [] := rfl
  refine ⟨fun uri => ?_, informed.wellFormed.shown, ?_⟩
  · have same := congrFun informed.markers uri
    rw [nothing] at same
    exact same
  · intro early publication late split retraction
    have sensible := informed.sensible
    rw [nothing, split, Markers.sensible_append] at sensible
    exact sensible.2.1 retraction

end Supervisor
end CompilerRelay
