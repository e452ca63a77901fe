import CompilerRelay.Proofs.Report
import CompilerRelay.Proofs.Supervisor.Dispatch
import CompilerRelay.Proofs.Supervisor.Markers

/-!
# When the ledger changes

An event changes the ledger in two ways only: a restart takes everything back,
and a report that is the answer to the job in flight is entered.  After the
event a job about the whole project takes everything back once more, if the
compiler takes the job.  `Redraws` says this of a step whose publications are
split between its two halves, and that nothing is sent otherwise.

The two halves are kept apart because one step can do both: a report is
entered, and then the next job takes it back.
-/

namespace CompilerRelay

open Effect

/-- A file in an answer, or a finding in a file, cannot be read. -/
def Spoiled (answer : Json) : Prop :=
  ∃ file ∈ answer.listAt "files" 0, (∃ complaint, FileReport.decode file = .error complaint) ∨
    ∃ item ∈ file.listAt "diagnostics" 1, ∃ complaint, Finding.decode item = .error complaint

/-- An answer that is spoiled anywhere is no report. -/
theorem Report.ofAnswer_of_spoiled {answer : Json} (spoiled : Spoiled answer) :
    ∃ error, Report.ofAnswer answer = .error error := by
  rcases spoiled with ⟨file, listed, ⟨complaint, failed⟩ | ⟨item, within, complaint, failed⟩⟩
  · exact Report.ofAnswer_of_malformed listed failed
  · rcases FileReport.decode_of_malformed within failed with ⟨first, broken⟩
    exact Report.ofAnswer_of_malformed listed broken

namespace Supervisor

/-- The event answers the job in flight, which is about a document or the whole
project, with a report. -/
def Receives (s : Supervisor) (event : Event) (job : Job) (report : Report) : Prop :=
  ∃ ticket answer, s.jobs.inFlight = some ticket ∧ ticket.job = job ∧
    event = .compiler s.generation (.response job.id (.ok answer)) ∧
      (job.kind.category = .recompile ∨ job.kind.category = .workspace) ∧
        Report.ofAnswer answer = .ok report

/-! ## Operations -/

theorem withdraw_withdraws (s : Supervisor) :
    s.ledger.Withdraws (publications s.withdraw.2) s.withdraw.1.ledger := by
  simpa [withdraw] using s.ledger.clear_withdraws

theorem restart_withdraws (s : Supervisor) (verdict : Verdict) (settings : Settings) :
    s.ledger.Withdraws (publications (s.restart verdict settings).2)
      (s.restart verdict settings).1.ledger := by
  rcases s.restart_withdrawn verdict settings with ⟨ledger, sent⟩
  rw [ledger, sent]
  exact s.withdraw_withdraws

/-- A job ends with a report that was asked for, which is entered under the
label in use. -/
theorem conclude_enters (s : Supervisor) {ticket : Ticket} {answer : Json} {report : Report}
    (flying : s.jobs.inFlight = some ticket) (reports : ticket.job.kind.reports = true)
    (read : Report.ofAnswer answer = .ok report) :
    (s.conclude ticket.job.id (.ok answer)).1.ledger =
        (s.ledger.publishAll (report.diagnostics s.source)).1 ∧
      publications (s.conclude ticket.job.id (.ok answer)).2 =
        (s.ledger.publishAll (report.diagnostics s.source)).2 := by
  have completed := (s.jobs.complete_eq_some_iff ticket.job.id (.ok answer) _).mpr
    ⟨ticket, flying, rfl, rfl⟩
  simp [conclude, completed, absorb, reports, read, publish]

/-- A job ends with anything else, or not at all. -/
theorem conclude_silent (s : Supervisor) (id : Nat) (outcome : Outcome)
    (noReport : ∀ ticket answer report, s.jobs.inFlight = some ticket → ticket.job.id = id →
      outcome = .ok answer → ticket.job.kind.reports = true →
        Report.ofAnswer answer ≠ .ok report) : s.Silent (s.conclude id outcome) := by
  cases completed : s.jobs.complete id outcome with
  | none =>
      rw [s.conclude_of_stale id outcome ((s.jobs.complete_eq_none_iff id outcome).mp completed)]
      exact ⟨rfl, rfl⟩
  | some done =>
      rcases (s.jobs.complete_eq_some_iff id outcome done).mp completed with
        ⟨ticket, flying, same, rfl⟩
      simp only [conclude, completed]
      cases outcome with
      | error error => cases error <;> simp [Silent, absorb]
      | ok answer =>
          by_cases reports : ticket.job.kind.reports = true
          · cases read : Report.ofAnswer answer with
            | error error => simp [Silent, absorb, reports, read]
            | ok report => exact absurd read (noReport ticket answer report flying same rfl reports)
          · simp [Silent, absorb, reports]

theorem reports_iff (kind : JobKind) :
    kind.reports = true ↔ kind.category = .recompile ∨ kind.category = .workspace := by
  rw [JobKind.reports, Bool.or_eq_true, beq_iff_eq, beq_iff_eq]

/-! ## The two halves of a step -/

theorem handle_enters (s : Supervisor) (verdict : Verdict) {event : Event} {job : Job}
    {report : Report} (receives : s.Receives event job report) :
    (s.handle verdict event).1.ledger = (s.ledger.publishAll (report.diagnostics s.source)).1 ∧
      publications (s.handle verdict event).2 =
        (s.ledger.publishAll (report.diagnostics s.source)).2 := by
  rcases receives with ⟨ticket, answer, flying, rfl, rfl, category, read⟩
  simp only [handle, if_true]
  exact s.conclude_enters flying ((reports_iff ticket.job.kind).mpr category) read

/-- A report that was asked for is entered. -/
theorem handle_takes (s : Supervisor) (verdict : Verdict) {event : Event} {job : Job}
    {report : Report} (receives : s.Receives event job report) :
    s.ledger.Takes s.source report (publications (s.handle verdict event).2)
      (s.handle verdict event).1.ledger := by
  rcases s.handle_enters verdict receives with ⟨ledger, sent⟩
  rw [ledger, sent]
  exact s.ledger.publishAll_takes s.source report

/-- Nothing that a compiler says concerns the ledger but such a report. -/
theorem onCompilerEvent_silent (s : Supervisor) (said : CompilerEvent)
    (noReport : ∀ job report, ¬ s.Receives (.compiler s.generation said) job report) :
    s.Silent (s.onCompilerEvent said) := by
  cases said with
  | ready =>
      simp only [onCompilerEvent]
      by_cases marked : s.jobs.markReady.2 = true
      · rw [if_pos marked]
        exact ⟨rfl, rfl⟩
      · rw [if_neg marked]
        by_cases gone : s.jobs.phase = .exited
        · rw [if_pos gone]
          exact ⟨rfl, rfl⟩
        · rw [if_neg gone]
          exact ⟨rfl, rfl⟩
  | response id outcome =>
      refine s.conclude_silent id outcome ?_
      rintro ticket answer report flying rfl rfl reports read
      exact noReport ticket.job report
        ⟨ticket, answer, flying, rfl, rfl, (reports_iff _).mp reports, read⟩
  | unmatched reason =>
      cases flying : s.jobs.inFlightId with
      | none =>
          simp only [onCompilerEvent, flying]
          exact ⟨rfl, rfl⟩
      | some id =>
          simp only [onCompilerEvent, flying]
          refine s.conclude_silent id _ ?_
          rintro ticket answer report _ _ impossible
          cases impossible
  | notification notice => exact ⟨rfl, rfl⟩
  | exited =>
      refine ⟨rfl, ?_⟩
      cases farewell : s.closing <;> simp [onCompilerEvent, farewell]

/-- No event but a restart and such a report concerns the ledger. -/
theorem handle_silent (s : Supervisor) (verdict : Verdict) {event : Event}
    (noRestart : ∀ settings, event ≠ .restart settings)
    (noReport : ∀ job report, ¬ s.Receives event job report) :
    s.Silent (s.handle verdict event) := by
  cases event with
  | launch settings =>
      simp only [handle]
      by_cases first : s.generation = 0
      · rw [if_pos first]
        exact s.start_silent verdict settings
      · rw [if_neg first]
        exact ⟨rfl, rfl⟩
  | restart settings => exact absurd rfl (noRestart settings)
  | submit request waiter =>
      exact ⟨rfl, (read_resolved _).1⟩
  | status waiter => exact ⟨rfl, rfl⟩
  | stop => exact ⟨rfl, rfl⟩
  | compiler generation said =>
      by_cases current : generation = s.generation
      · subst current
        simp only [handle, if_true]
        exact s.onCompilerEvent_silent said noReport
      · simp only [handle, if_neg current]
        exact ⟨rfl, rfl⟩

theorem handovers_halt (s : Supervisor) : handovers s.halt.2 = [] := by
  simp [halt]

/-- The compiler took a job about the whole project. -/
def Rechecks (handed : List Handover) : Prop :=
  ∃ handover ∈ handed, handover.accepted = true ∧ handover.job.kind.category = .workspace

/-- A job is taken only by a compiler that is held. -/
theorem channel_of_taken {s : Supervisor} {verdict : Verdict} {job : Job}
    (taken : s.refusal? verdict job = none) : ∃ generation, s.channel = some generation := by
  cases held : s.channel with
  | none => simp [refusal?, held] at taken
  | some generation => exact ⟨generation, rfl⟩

/-- Only a job about the whole project calls for a check of it. -/
theorem not_rechecks_of_other (s : Supervisor) {job : Job} {accepted : Bool}
    (other : accepted = true → job.kind.category ≠ .workspace) :
    ¬ Rechecks (handovers (s.channel.toList.map (Effect.dispatched · job accepted))) := by
  rintro ⟨handover, member, taken, workspace⟩
  rw [(read_offered _ job accepted).2.2.1] at member
  rcases List.mem_map.mp member with ⟨_, _, rfl⟩
  exact other taken workspace

/-- A job about the whole project takes everything back, but only once the
compiler has taken it, and no other job does. -/
theorem pump_cases (s : Supervisor) (verdict : Verdict) :
    (Rechecks (handovers (s.pump verdict).2) ∧
      s.ledger.Withdraws (publications (s.pump verdict).2) (s.pump verdict).1.ledger) ∨
      (¬ Rechecks (handovers (s.pump verdict).2) ∧ s.Silent (s.pump verdict)) := by
  have offer := fun job accepted => (read_offered s.channel.toList job accepted).1
  cases driven : s.jobs.drive with
  | none =>
      simp only [pump, driven]
      refine Or.inr ⟨?_, rfl, rfl⟩
      rintro ⟨handover, member, _⟩
      cases member
  | some next =>
      rcases next with ⟨job, jobs⟩
      simp only [pump, driven]
      cases refused : s.refusal? verdict job with
      | some cause =>
          have lost := (reads_compilerGone { s with jobs }).handovers
          have refusal :
              ¬ Rechecks (handovers (s.channel.toList.map (Effect.dispatched · job false))) :=
            s.not_rechecks_of_other (absurd · Bool.false_ne_true)
          refine Or.inr ⟨?_, rfl, ?_⟩
          · rw [handovers_append, handovers_append, lost, List.append_nil]
            exact (List.append_nil _).symm ▸ refusal
          · simp
      | none =>
          rcases channel_of_taken refused with ⟨generation, held⟩
          -- Only a job about the whole project is followed by a withdrawal.
          have quiet : ∀ other, job.kind.category = other → other ≠ .workspace →
              ¬ Rechecks (handovers (s.channel.toList.map (Effect.dispatched · job true))) := by
            rintro _ rfl other
            exact s.not_rechecks_of_other fun _ => other
          cases category : job.kind.category with
          | workspace =>
              have withdrawn := withdraw_withdraws { s with jobs }
              refine Or.inl ⟨⟨⟨generation, job, true⟩, ?_, rfl, category⟩, ?_⟩
              · simp [held]
              · simpa using withdrawn
          | lifecycle =>
              exact Or.inr ⟨quiet _ category (by decide), rfl, offer job true⟩
          | recompile =>
              exact Or.inr ⟨quiet _ category (by decide), rfl, offer job true⟩
          | query =>
              exact Or.inr ⟨quiet _ category (by decide), rfl, offer job true⟩

end Supervisor

/-! ## A step of a run -/

open Supervisor

namespace Moment

/-- How the ledger changes in a step, whose publications are sent early, when
the event is handled, and late, when a job is handed over. -/
structure Changes (moment : Moment) (early late : List Publication) : Prop where
  sent : publications moment.effects = early ++ late
  /-- A restart takes everything back. -/
  restarted : moment.state.halted = false → moment.Restarts →
    moment.state.ledger.Withdraws early moment.middle.ledger
  /-- A report that was asked for is entered. -/
  reported : ∀ job report, moment.state.Receives moment.event job report →
    moment.state.ledger.Takes moment.state.source report early moment.middle.ledger
  /-- No other event changes anything. -/
  otherwise : ¬ (moment.state.halted = false ∧ moment.Restarts) →
    (∀ job report, ¬ moment.state.Receives moment.event job report) →
      early = [] ∧ moment.middle.ledger = moment.state.ledger
  /-- A job about the whole project takes everything back when it is taken. -/
  rechecked : Rechecks (handovers moment.effects) →
    moment.middle.ledger.Withdraws late moment.next.ledger
  /-- No other job changes anything, and neither does one that is not taken. -/
  unchecked : ¬ Rechecks (handovers moment.effects) →
    late = [] ∧ moment.next.ledger = moment.middle.ledger
  /-- What is sent early takes an editor from the one ledger to the other. -/
  updates : moment.state.ledger.Updates early moment.middle.ledger

theorem run_updates (events : List (Verdict × Event)) :
    Supervisor.initial.ledger.Updates (publications (Supervisor.initial.run events).2)
      (Supervisor.initial.run events).1.ledger :=
  Supervisor.initial.run_informs Ledger.empty_wellFormed events

/-- A supervisor that has ended has no job in flight that could be answered. -/
theorem running_of_receives {moment : Moment} {job : Job} {report : Report}
    (receives : moment.state.Receives moment.event job report) : moment.state.halted = false := by
  rcases receives with ⟨ticket, _, flying, _⟩
  refine Bool.eq_false_iff.mpr fun ended => ?_
  have nothing := moment.desk_valid.jobs.inFlight_of_exited (moment.desk_valid.ended ended)
  rw [show moment.state.desk.jobs.inFlight = some ticket from flying] at nothing
  cases nothing

/-- A step in which there is neither a restart nor a report nor a handover. -/
theorem changes_of_quiet {moment : Moment} (silent : publications moment.effects = [])
    (middle : moment.middle.ledger = moment.state.ledger)
    (next : moment.next.ledger = moment.state.ledger) (idle : handovers moment.effects = [])
    (noRestart : ¬ (moment.state.halted = false ∧ moment.Restarts))
    (noReport : ∀ job report, ¬ moment.state.Receives moment.event job report) :
    moment.Changes [] [] where
  sent := silent
  restarted := fun running restarts => absurd ⟨running, restarts⟩ noRestart
  reported := fun job report receives => absurd receives (noReport job report)
  otherwise := fun _ _ => ⟨rfl, middle⟩
  rechecked := by
    rintro ⟨_, member, _⟩
    rw [idle] at member
    cases member
  unchecked := fun _ => ⟨rfl, next.trans middle.symm⟩
  updates := by
    rw [middle]
    exact Ledger.Updates.refl _ (run_updates moment.before).wellFormed

/-- A step of a supervisor that runs on. -/
theorem changes_of_running {moment : Moment} (running : moment.state.halted = false)
    (continues : moment.event ≠ .stop) :
    moment.Changes (publications (moment.state.handle moment.verdict moment.event).2)
      (publications (moment.middle.pump moment.verdict).2) := by
  have middle : moment.middle = (moment.state.handle moment.verdict moment.event).1 :=
    moment.state.middle_of_ne_stop running moment.verdict continues
  have step := moment.state.step_of_ne_stop running moment.verdict continues
  rw [← middle] at step
  have effects : moment.effects = (moment.state.handle moment.verdict moment.event).2 ++
      (moment.middle.pump moment.verdict).2 := congrArg Prod.snd step
  have next : moment.next = (moment.middle.pump moment.verdict).1 := by
    rw [Moment.next, step]
  have handed : handovers moment.effects = handovers (moment.middle.pump moment.verdict).2 := by
    rcases moment.state.handle_handles running moment.verdict continues with ⟨_, _, reads, _⟩
    rw [effects, handovers_append, reads.handovers, List.nil_append]
  have pumped := moment.middle.pump_cases moment.verdict
  rw [← handed, ← next] at pumped
  refine ⟨?_, ?_, ?_, ?_, ?_, ?_, ?_⟩
  · rw [effects, publications_append]
  · rintro _ ⟨settings, restarts⟩
    rw [middle, restarts]
    exact moment.state.restart_withdraws moment.verdict settings
  · intro job report receives
    rw [middle]
    exact moment.state.handle_takes moment.verdict receives
  · intro noRestart noReport
    have quiet := moment.state.handle_silent moment.verdict
      (fun settings restarts => noRestart ⟨running, settings, restarts⟩) noReport
    exact ⟨quiet.2, middle ▸ quiet.1⟩
  · intro rechecks
    rcases pumped with ⟨_, withdraws⟩ | ⟨none, _⟩
    · exact withdraws
    · exact absurd rechecks none
  · intro none
    rcases pumped with ⟨rechecks, _⟩ | ⟨_, kept, nothing⟩
    · exact absurd rechecks none
    · exact ⟨nothing, next ▸ kept⟩
  · rw [middle]
    exact moment.state.handle_informs (run_updates moment.before).wellFormed _ _

theorem changes (moment : Moment) : ∃ early late, moment.Changes early late := by
  cases ended : moment.state.halted with
  | true =>
      rcases turned_away ended with ⟨next, nothing, none, _⟩
      have middle : moment.middle = moment.state :=
        moment.state.middle_of_halted ended moment.verdict moment.event
      refine ⟨[], [], changes_of_quiet nothing (middle ▸ rfl) (next ▸ rfl) none ?_ ?_⟩
      · rintro ⟨running, _⟩
        rw [ended] at running
        cases running
      · intro job report receives
        have running := running_of_receives receives
        rw [ended] at running
        cases running
  | false =>
      by_cases last : moment.event = .stop
      · have step := moment.state.step_stop ended moment.verdict
        rw [← last] at step
        have effects : moment.effects = moment.state.halt.2 := congrArg Prod.snd step
        have next : moment.next = moment.state.halt.1 := by
          rw [Moment.next, step]
        have middle : moment.middle = moment.state.halt.1 := by
          rw [Moment.middle, last]
          exact moment.state.middle_stop ended moment.verdict
        have ending := moment.state.halt_silent
        refine ⟨[], [], changes_of_quiet ?_ (middle ▸ ending.1) (next ▸ ending.1) ?_ ?_ ?_⟩
        · rw [effects]
          exact ending.2
        · rw [effects]
          exact moment.state.handovers_halt
        · rintro ⟨_, settings, restarts⟩
          cases last.symm.trans restarts
        · rintro job report ⟨_, _, _, _, said, _⟩
          cases last.symm.trans said
      · exact ⟨_, _, changes_of_running ended last⟩

/-- What takes the empty ledger to another one has an editor show its entries. -/
theorem shown_of_updates {sent : List Publication} {ledger : Ledger}
    (updates : Supervisor.initial.ledger.Updates sent ledger) (uri : Uri) :
    Markers.after sent uri = (ledger.get? uri).getD [] :=
  congrFun updates.markers uri

/-- After every run the editor shows what the ledger holds. -/
theorem shown_after (events : List (Verdict × Event)) (uri : Uri) :
    Markers.after (publications (Supervisor.initial.run events).2) uri =
      ((Supervisor.initial.run events).1.ledger.get? uri).getD [] :=
  shown_of_updates (run_updates events) uri

/-- Once the event was handled, the editor shows what the ledger holds. -/
theorem Changes.shown_between {moment : Moment} {early late : List Publication}
    (changes : moment.Changes early late) (uri : Uri) :
    Markers.after (publications (Supervisor.initial.run moment.before).2 ++ early) uri =
      (moment.middle.ledger.get? uri).getD [] :=
  shown_of_updates ((run_updates moment.before).trans changes.updates) uri

theorem shown_next (moment : Moment) (uri : Uri) :
    Markers.after (publications (Supervisor.initial.run moment.through).2) uri =
      (moment.next.ledger.get? uri).getD [] := by
  have ran : (Supervisor.initial.run moment.through).1 = moment.next := by
    rw [run_through]
  rw [shown_after, ran]

/-- How the ledger and the editor's markers fare in a step.  A step has two
halves, the event and the handover behind it, and each may change what is shown;
`early` and `late` are what they send. -/
structure Redraws (moment : Moment) (early late : List Publication) : Prop extends
    moment.Changes early late where
  /-- No part of an answer is entered if another part cannot be read. -/
  whole : ∀ generation id answer, moment.event = .compiler generation (.response id (.ok answer)) →
    Spoiled answer → early = [] ∧ moment.middle.ledger = moment.state.ledger
  /-- Before the step, between its halves and after it the editor shows for each
  document what the ledger holds for it. -/
  before : ∀ uri, Markers.after (publications (Supervisor.initial.run moment.before).2) uri =
    (moment.state.ledger.get? uri).getD []
  between : ∀ uri, Markers.after
    (publications (Supervisor.initial.run moment.before).2 ++ early) uri =
      (moment.middle.ledger.get? uri).getD []
  after : ∀ uri, Markers.after (publications (Supervisor.initial.run moment.through).2) uri =
    (moment.next.ledger.get? uri).getD []

/-- In every step of every run the ledger and the editor's markers change for
one of three reasons: a restart, a report that was asked for, and a job about
the whole project that a compiler took. -/
theorem redrawn (moment : Moment) : ∃ early late, moment.Redraws early late := by
  rcases moment.changes with ⟨early, late, changes⟩
  refine ⟨early, late, changes, ?_, shown_after moment.before, changes.shown_between,
    moment.shown_next⟩
  intro generation id answer said spoiled
  rcases Report.ofAnswer_of_spoiled spoiled with ⟨error, failed⟩
  refine changes.otherwise ?_ ?_
  · rintro ⟨_, settings, restarts⟩
    exact nomatch said.symm.trans restarts
  · rintro job report ⟨_, other, _, _, heard, _, read⟩
    cases said.symm.trans heard
    rw [failed] at read
    cases read

end Moment
end CompilerRelay
