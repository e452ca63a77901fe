import CompilerRelay.Proofs.Supervisor.Redraw
import CompilerRelay.Proofs.Supervisor.Replacement

/-!
# What the editor shows after an answer

While a job is in flight the ledger does not change, whatever else happens: the
answer to the job is the only report that can be entered, no further job is
taken, and a restart ends the job.  So an answer finds the ledger as the job
left it when it was taken.

A job about the whole project leaves it empty, and the answer is then all that
the editor shows.  A further such job may be handed over after the answer, in
the same step, and then nothing is shown.

The answer to a job about one document says nothing of documents that it does
not list, and the document of the job is no exception.  If the compiler leaves
it out, or answers with null, the document keeps what it showed.
-/

namespace CompilerRelay

open Effect Supervisor

namespace Report

/-- What the ledger holds for a document when it holds a report and no more.  If
the report lists the document several times, the last entry counts. -/
def held? (report : Report) (source : String) (uri : Uri) : Option (List Diagnostic) :=
  (report.entry? uri).bind fun file => Ledger.entryFor (file.diagnostics source)

/-- What an editor shows for a document when it shows a report and no more. -/
def shown (report : Report) (source : String) (uri : Uri) : List Diagnostic :=
  ((report.entry? uri).map (·.diagnostics source)).getD []

end Report

namespace Ledger

theorem entryFor_getD (diagnostics : List Diagnostic) :
    (entryFor diagnostics).getD [] = diagnostics := by
  unfold entryFor
  by_cases nothing : diagnostics = []
  · rw [if_pos nothing, nothing]
    rfl
  · rw [if_neg nothing]
    rfl

end Ledger

theorem Report.held?_getD (report : Report) (source : String) (uri : Uri) :
    (report.held? source uri).getD [] = report.shown source uri := by
  unfold held? shown
  cases report.entry? uri with
  | none => rfl
  | some file => exact Ledger.entryFor_getD (file.diagnostics source)

/-- A report that is entered into the empty ledger is all that it holds. -/
theorem Ledger.Takes.get?_of_empty {source : String} {report : Report}
    {sent : List Publication} {after : Ledger} (takes : Ledger.empty.Takes source report sent after)
    (uri : Uri) : after.get? uri = report.held? source uri := by
  unfold Report.held?
  cases found : report.entry? uri with
  | none => exact takes.others uri found
  | some file => exact takes.listed uri file found

namespace Moment

/-! ## The ledger while a job is in flight -/

/-- An event that is a report answers the job in flight, so the job is done
when it was handled. -/
theorem landed_of_receives {moment : Moment} {job : Job} {report : Report}
    (receives : moment.state.Receives moment.event job report) :
    moment.middle.jobs.inFlight = none := by
  rcases receives with ⟨ticket, answer, flying, rfl, said, _⟩
  rcases moment.halves with ⟨told, lost, handled, _⟩
  cases handled.flies moment.desk_valid flying with
  | carried _ _ silent =>
      have ignored := silent _ said
      rw [CompilerEvent.outcomeFor?, if_pos rfl] at ignored
      cases ignored
  | concluded landed => exact landed
  | lost landed => exact landed

/-- A restart leaves no job in flight. -/
theorem landed_of_restarts {moment : Moment} (restarts : moment.Restarts) :
    moment.middle.jobs.inFlight = none := by
  rcases restarts with ⟨settings, restarted⟩
  rcases moment.halves with ⟨told, lost, handled, _⟩
  refine Option.eq_none_iff_forall_ne_some.mpr fun ticket flying => ?_
  have listed : ticket ∈ moment.middle.desk.jobs.outstanding :=
    JobQueue.mem_outstanding.mpr (Or.inl flying)
  cases handled.remains moment.desk_valid listed with
  | stayed _ other => exact other settings restarted
  | launched _ _ said => exact nomatch restarted.symm.trans said
  | arrived said => exact nomatch restarted.symm.trans said

/-- A job that is in flight was taken, and the ledger has not changed since. -/
theorem steady_of_flying (events : List (Verdict × Event)) :
    ∀ ticket, (Supervisor.initial.run events).1.jobs.inFlight = some ticket →
      ∃ (taken : Moment) (generation : Nat), taken.In events ∧
        (⟨generation, ticket.job, true⟩ : Handover) ∈ handovers taken.effects ∧
          (Supervisor.initial.run events).1.ledger = taken.next.ledger := by
  refine induction (P := fun events s => ∀ ticket, s.jobs.inFlight = some ticket →
    ∃ (taken : Moment) (generation : Nat), taken.In events ∧
      (⟨generation, ticket.job, true⟩ : Handover) ∈ handovers taken.effects ∧
        s.ledger = taken.next.ledger) (fun _ flying => nomatch flying) ?_ events
  intro moment inductionHypothesis ticket flying
  rcases moment.changes with ⟨early, late, changes⟩
  rcases moment.halves with ⟨told, lost, handled, pumped, _⟩
  rcases pumped.flying_cases flying with ⟨carried, idle⟩ | ⟨generation, given⟩
  · rcases inductionHypothesis ticket (handled.flying_before carried) with
      ⟨taken, generation, inside, given, steady⟩
    refine ⟨taken, generation, inside.append _, given, ?_⟩
    have present : moment.middle.jobs.inFlight ≠ none := by
      rw [show moment.middle.jobs.inFlight = some ticket from carried]
      exact Option.some_ne_none ticket
    have kept := changes.otherwise (fun restart => present (landed_of_restarts restart.2))
      (fun job report receives => present (landed_of_receives receives))
    have unchecked : ¬ Rechecks (handovers moment.effects) := by
      rintro ⟨handover, member, _⟩
      rw [idle] at member
      cases member
    rw [(changes.unchecked unchecked).2, kept.2]
    exact steady
  · refine ⟨moment, generation, moment.in_through, ?_, rfl⟩
    rw [given]
    exact List.mem_singleton_self _

/-- A job about the whole project leaves nothing to show. -/
theorem Changes.nothing_left {moment : Moment} {early late : List Publication}
    (changes : moment.Changes early late) (rechecks : Rechecks (handovers moment.effects)) :
    moment.next.ledger = .empty ∧ ∀ uri,
      Markers.after (publications (Supervisor.initial.run moment.through).2) uri = [] := by
  have nothing := (changes.rechecked rechecks).nothing
  refine ⟨nothing, fun uri => ?_⟩
  rw [moment.shown_next, nothing]
  rfl

/-! ## The job that is answered -/

theorem mem_handed {moment : Moment} {events : List (Verdict × Event)} (inside : moment.In events)
    {handover : Handover} (member : handover ∈ handovers moment.effects) :
    handover.job ∈ handed events := by
  refine List.mem_map_of_mem (mem_handovers.mpr ?_)
  exact (mem_effects_iff _ events).mpr ⟨moment, inside, mem_handovers.mp member⟩

/-- Of the jobs that were handed over in a run one has an identifier. -/
theorem job_unique {events : List (Verdict × Event)} {first second : Moment}
    (left : first.In events) (right : second.In events) {early late : Handover}
    (former : early ∈ handovers first.effects) (latter : late ∈ handovers second.effects)
    (same : early.job.id = late.job.id) : early.job = late.job := by
  have distinct := (preserved_once.holds events).1
  rw [course, List.map_append] at distinct
  exact List.inj_on_of_nodup_map (List.nodup_append.mp distinct).1
    (mem_handed left former) (mem_handed right latter) same

/-- A job that was handed over is not handed over again. -/
theorem not_handed_of_precedes {first second : Moment} (order : first.Precedes second)
    {early late : Handover} (former : early ∈ handovers first.effects)
    (latter : late ∈ handovers second.effects) : early.job.id ≠ late.job.id := by
  have distinct := (preserved_once.holds second.through).1
  rw [course, handed_through, List.append_assoc, List.map_append] at distinct
  refine (List.nodup_append.mp distinct).2.2 _ (List.mem_map_of_mem (mem_handed order former)) _ ?_
  exact List.mem_map_of_mem (List.mem_append_left _ (List.mem_map_of_mem latter))

/-- The compiler of a generation took a job, and later its answer to the job is
accepted and is a report. -/
structure Reported (taken answered : Moment) (generation : Nat) (job : Job) (report : Report) :
    Prop where
  order : taken.Precedes answered
  given : (⟨generation, job, true⟩ : Handover) ∈ handovers taken.effects
  current : answered.state.generation = generation
  flying : answered.state.jobs.inFlightId = some job.id
  said : ∃ answer, answered.event = .compiler generation (.response job.id (.ok answer)) ∧
    Report.ofAnswer answer = .ok report

namespace Reported

variable {taken answered : Moment} {generation : Nat} {job : Job} {report : Report}

/-- The job that is answered is in flight, and the ledger is as the job left it. -/
theorem steady (reported : Reported taken answered generation job report) :
    ∃ ticket, answered.state.jobs.inFlight = some ticket ∧ ticket.job = job ∧
      answered.state.ledger = taken.next.ledger := by
  rcases Option.map_eq_some_iff.mp reported.flying with ⟨ticket, flying, same⟩
  rcases steady_of_flying answered.before ticket flying with ⟨other, _, inside, given, steady⟩
  refine ⟨ticket, flying, job_unique inside reported.order given reported.given same, ?_⟩
  rcases trichotomy inside reported.order with earlier | equal | later
  · exact absurd same (not_handed_of_precedes earlier given reported.given)
  · exact equal ▸ steady
  · exact absurd same.symm (not_handed_of_precedes later reported.given given)

theorem receives (reported : Reported taken answered generation job report)
    (category : job.kind.category = .recompile ∨ job.kind.category = .workspace) :
    answered.state.Receives answered.event job report := by
  rcases reported.steady with ⟨ticket, flying, same, _⟩
  rcases reported.said with ⟨answer, said, read⟩
  exact ⟨ticket, answer, flying, same, reported.current ▸ said, category, read⟩

end Reported

/-! ## A job about the whole project -/

/-- In the step the editor comes to show a report and no more.  The publications
are those sent early, about the answer, and late, when the next job is taken. -/
structure Presents (moment : Moment) (report : Report) (early late : List Publication) :
    Prop where
  sent : publications moment.effects = early ++ late
  /-- What is tracked when the answer was handled, and what the editor shows. -/
  tracked : ∀ uri, moment.middle.ledger.get? uri = report.held? moment.state.source uri
  shown : ∀ uri, Markers.after
    (publications (Supervisor.initial.run moment.before).2 ++ early) uri =
      report.shown moment.state.source uri
  /-- It is still so after the step, unless another such job is taken. -/
  kept : ¬ Rechecks (handovers moment.effects) → late = [] ∧ ∀ uri,
    moment.next.ledger.get? uri = report.held? moment.state.source uri ∧
      Markers.after (publications (Supervisor.initial.run moment.through).2) uri =
        report.shown moment.state.source uri
  withdrawn : Rechecks (handovers moment.effects) → moment.next.ledger = .empty ∧ ∀ uri,
    Markers.after (publications (Supervisor.initial.run moment.through).2) uri = []

/-- The answer to a job about the whole project leaves the editor with what it
reports, whatever was shown before and whatever came in between. -/
theorem recheck_presented {taken answered : Moment} {generation : Nat} {job : Job}
    {report : Report} (workspace : job.kind.category = .workspace)
    (reported : Reported taken answered generation job report) :
    ∃ early late, answered.Presents report early late := by
  rcases reported.steady with ⟨_, _, _, steady⟩
  rcases taken.changes with ⟨_, _, before⟩
  rcases answered.changes with ⟨early, late, changes⟩
  have empty : answered.state.ledger = .empty := by
    rw [steady]
    exact (before.rechecked ⟨_, reported.given, rfl, workspace⟩).nothing
  have takes := changes.reported job report (reported.receives (Or.inr workspace))
  rw [empty] at takes
  have tracked := takes.get?_of_empty
  refine ⟨early, late, changes.sent, tracked, fun uri => ?_, fun none => ?_,
    changes.nothing_left⟩
  · rw [changes.shown_between, tracked, Report.held?_getD]
  · rcases changes.unchecked none with ⟨nothing, same⟩
    refine ⟨nothing, fun uri => ?_⟩
    rw [answered.shown_next, same, tracked, Report.held?_getD]
    exact ⟨rfl, rfl⟩

def willing : Verdict :=
  ⟨fun _ => none, fun _ => none⟩

def remark (uri : Uri) : Json :=
  .arr [.arr [.arr [uri.toJson, .arr [.arr
    [.arr [.arr [.int 0, .int 0], .arr [.int 0, .int 1]], .str "unclear"]]]]]

def remarked (uri : Uri) : Report :=
  ⟨[⟨uri, [⟨⟨⟨0, 0⟩, ⟨0, 1⟩⟩, "unclear", .error⟩]⟩]⟩

def draft : Uri :=
  ⟨"file:///draft"⟩

/-- Two documents are added to a project one after the other.  The first job is
answered with a remark on the first document, and then the second is taken. -/
def added : Moment where
  before := [(willing, .launch {}), (willing, .compiler 1 .ready)]
  verdict := willing
  event := .submit (.addUri draft) none

def addedAnswered : Moment where
  before := added.through ++ [(willing, .submit (.addUri ⟨"file:///plan"⟩) none)]
  verdict := willing
  event := .compiler 1 (.response 1 (.ok (remark draft)))

theorem added_reported : Reported added addedAnswered 1 ⟨1, .addUri draft⟩ (remarked draft) where
  order := List.prefix_append _ _
  given := by decide +kernel
  current := rfl
  flying := rfl
  said := ⟨_, rfl, rfl⟩

/-- The remark is shown until the second job is taken. -/
theorem recheck_presented_added : ∃ early late,
    addedAnswered.Presents (remarked draft) early late ∧ addedAnswered.middle.ledger.size = 1 ∧
      addedAnswered.next.ledger.size = 0 := by
  rcases recheck_presented rfl added_reported with ⟨early, late, presents⟩
  exact ⟨early, late, presents, by decide +kernel, by decide +kernel⟩

/-- The editor need not show what was reported when the step is over. -/
theorem recheck_withdrawn : ¬ ∀ (taken answered : Moment) (generation : Nat) (job : Job)
    (report : Report), job.kind.category = .workspace →
      Reported taken answered generation job report → ∀ uri,
        answered.next.ledger.get? uri = report.held? answered.state.source uri := by
  intro shows
  have kept := shows added addedAnswered 1 _ (remarked draft) rfl added_reported draft
  have lost : addedAnswered.next.ledger.get? draft ≠
      (remarked draft).held? addedAnswered.state.source draft := by decide +kernel
  exact lost kept

/-! ## A job about one document -/

/-- How a document fares that was to be compiled again, from the step in which
the job was taken to the one in which it is answered. -/
structure Restates (taken answered : Moment) (report : Report) (document : Uri)
    (early late : List Publication) : Prop where
  sent : publications answered.effects = early ++ late
  /-- The last entry for the document is what is tracked and shown. -/
  listed : ∀ file, report.entry? document = some file →
    answered.middle.ledger.get? document =
        Ledger.entryFor (file.diagnostics answered.state.source) ∧
      Markers.after (publications (Supervisor.initial.run answered.before).2 ++ early) document =
        file.diagnostics answered.state.source
  /-- A document that is left out shows what it did before the job was taken. -/
  omitted : report.entry? document = none →
    (∀ publication ∈ early, publication.uri ≠ document) ∧
      answered.middle.ledger.get? document = taken.middle.ledger.get? document ∧
        Markers.after (publications (Supervisor.initial.run answered.before).2 ++ early) document =
          Markers.after (publications (Supervisor.initial.run taken.through).2) document
  /-- It is still so after the step, unless the whole project is to be checked. -/
  kept : ¬ Rechecks (handovers answered.effects) →
    late = [] ∧ answered.next.ledger = answered.middle.ledger
  withdrawn : Rechecks (handovers answered.effects) → answered.next.ledger = .empty ∧ ∀ uri,
    Markers.after (publications (Supervisor.initial.run answered.through).2) uri = []

/-- Only one job is handed over in a step. -/
theorem not_rechecks_of_given {moment : Moment} {generation : Nat} {job : Job}
    (given : (⟨generation, job, true⟩ : Handover) ∈ handovers moment.effects)
    (other : job.kind.category ≠ .workspace) : ¬ Rechecks (handovers moment.effects) := by
  rintro ⟨handover, member, accepted, workspace⟩
  rcases moment.halves with ⟨told, lost, handled, pumped, _⟩
  rcases pumped.offered given with ⟨first, _, _, _, split, _, same⟩
  rcases pumped.offered member with ⟨second, _, _, _, again, _, same'⟩
  have alike : first = second := (List.cons.inj (split.symm.trans again)).1
  rw [← same', ← alike, same] at workspace
  exact other workspace

/-- The answer to a job about a document gives the document what its last entry
says, and leaves it alone if there is none. -/
theorem recompile_restated {taken answered : Moment} {generation : Nat} {job : Job}
    {report : Report} {document : Uri} (about : job.request.coalesceKey = some document)
    (reported : Reported taken answered generation job report) :
    ∃ early late, Restates taken answered report document early late := by
  have recompile : job.kind.category = .recompile := Request.category_of_coalesceKey about
  have other : job.kind.category ≠ .workspace := by
    rw [recompile]
    exact (nomatch ·)
  rcases reported.steady with ⟨_, _, _, steady⟩
  rcases taken.changes with ⟨_, _, before⟩
  rcases answered.changes with ⟨early, late, changes⟩
  have takes := changes.reported job report (reported.receives (Or.inl recompile))
  have unchanged := (before.unchecked (not_rechecks_of_given reported.given other)).2
  refine ⟨early, late, changes.sent, fun file found => ?_, fun missing => ?_,
    changes.unchecked, changes.nothing_left⟩
  · have held := takes.listed document file found
    rw [changes.shown_between, held, Ledger.entryFor_getD]
    exact ⟨rfl, rfl⟩
  · have held := takes.others document missing
    refine ⟨?_, ?_, ?_⟩
    · rintro publication member rfl
      rcases takes.confined publication member with ⟨file, listed, same⟩
      have absent := List.find?_eq_none.mp missing file (List.mem_reverse.mpr listed)
      exact absent (decide_eq_true same)
    · rw [held, steady, unchanged]
    · rw [changes.shown_between, held, steady, taken.shown_next]

/-- A document is compiled, which gives a remark, and compiled again, which
gives nothing. -/
def recompiled : Moment where
  before := [(willing, .launch {}), (willing, .compiler 1 .ready),
    (willing, .submit (.documentChanged ⟨draft, 1, "a"⟩) none),
    (willing, .compiler 1 (.response 1 (.ok (remark draft))))]
  verdict := willing
  event := .submit (.documentChanged ⟨draft, 2, "b"⟩) none

def recompiledAnswered : Moment where
  before := recompiled.through
  verdict := willing
  event := .compiler 1 (.response 2 (.ok .null))

theorem recompiled_reported : Reported recompiled recompiledAnswered 1
    ⟨2, .documentChanged ⟨draft, 2, "b"⟩⟩ ⟨[]⟩ where
  order := List.prefix_rfl
  given := by decide +kernel
  current := rfl
  flying := rfl
  said := ⟨_, rfl, rfl⟩

/-- The remark is still shown. -/
theorem recompile_restated_null : ∃ early late,
    Restates recompiled recompiledAnswered ⟨[]⟩ draft early late ∧
      recompiledAnswered.next.ledger.isTracked draft = true := by
  rcases recompile_restated rfl recompiled_reported with ⟨early, late, restates⟩
  exact ⟨early, late, restates, by decide +kernel⟩

/-- What a compiler no longer reports may be shown all the same. -/
theorem recompile_keeps_stale : ¬ ∀ (taken answered : Moment) (generation : Nat) (job : Job)
    (report : Report) (document : Uri), job.request.coalesceKey = some document →
      Reported taken answered generation job report →
        answered.next.ledger.get? document = report.held? answered.state.source document := by
  intro retracts
  have gone := retracts recompiled recompiledAnswered 1 _ ⟨[]⟩ draft rfl recompiled_reported
  have stale : recompiledAnswered.next.ledger.get? draft ≠
      Report.held? ⟨[]⟩ recompiledAnswered.state.source draft := by decide +kernel
  exact stale gone

end Moment
end CompilerRelay
