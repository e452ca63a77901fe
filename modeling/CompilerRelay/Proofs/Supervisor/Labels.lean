import CompilerRelay.Proofs.Supervisor.Redraw
import CompilerRelay.Proofs.Supervisor.Wanted

/-!
# The label of a diagnostic

A compiler says nothing of the label that its diagnostics are shown with.  The
supervisor adds it when a report is entered, from a field that every attempt to
launch a compiler sets anew.  So a label could go with the wrong compiler: a
report may come after the compiler was replaced, and the ledger keeps what is
shown for as long as nothing else is reported.

Neither happens (`labelled`).  A report is entered only if it is stamped with
the generation of the last attempt, and every attempt but the first finds the
ledger emptied, whether it succeeds or fails.  The first one finds it empty:
without a compiler no job is in flight, so there was nothing to report on.
-/

namespace CompilerRelay

open Effect Supervisor

namespace Moment

/-! ## Attempts to launch -/

/-- The step attempts to launch the compiler of a generation with these
settings, and starts it or not. -/
structure Begins (moment : Moment) (generation : Nat) (settings : Settings) (started : Bool) :
    Prop where
  asked : moment.event = .launch settings ∨ moment.event = .restart settings
  launched : launches moment.effects = [⟨generation, settings.compiler, started⟩]

/-- No launch is attempted in the run after this moment. -/
def LastIn (launch : Moment) (events : List (Verdict × Event)) : Prop :=
  launch.In events ∧
    ∀ later : Moment, launch.Precedes later → later.In events → launches later.effects = []

theorem Begins.generation_eq {moment : Moment} {generation : Nat} {settings : Settings}
    {started : Bool} (begins : moment.Begins generation settings started) :
    moment.state.generation + 1 = generation ∧ moment.next.generation = generation := by
  have counted := moment.next_generation
  rw [begins.launched] at counted
  have number := counted.2 _ (List.mem_singleton_self _)
  exact ⟨number.symm, counted.1.trans number.symm⟩

theorem Begins.running {moment : Moment} {generation : Nat} {settings : Settings}
    {started : Bool} (begins : moment.Begins generation settings started) :
    moment.state.halted = false := by
  refine Bool.eq_false_iff.mpr fun ended => ?_
  have launched := begins.launched
  rw [(turned_away ended).2.2.2] at launched
  cases launched

/-- A launch is attempted for want of any earlier one, or to restart. -/
theorem Begins.first_or_restart {moment : Moment} {generation : Nat} {settings : Settings}
    {started : Bool} (begins : moment.Begins generation settings started) :
    moment.state.generation = 0 ∨ moment.Restarts := by
  rcases begins.asked with asked | asked
  · refine Or.inl ?_
    rcases moment.halves with ⟨_, _, handled, _⟩
    have wanted := handled.settings begins.running
    change (launches moment.effects).map _ =
      (moment.event.wants? moment.state.generation).toList.map _ at wanted
    rw [begins.launched, asked, Event.wants?] at wanted
    by_contra later
    rw [if_neg later] at wanted
    cases wanted
  · exact Or.inr ⟨settings, asked⟩

/-- A generation begins once, with one settings. -/
theorem Begins.unique {first second : Moment} {events : List (Verdict × Event)}
    (left : first.In events) (right : second.In events) {generation : Nat}
    {settings settings' : Settings} {started started' : Bool}
    (former : first.Begins generation settings started)
    (latter : second.Begins generation settings' started') :
    first = second ∧ settings = settings' ∧ started = started' := by
  have early := former.generation_eq
  have late := latter.generation_eq
  have same : first = second := by
    rcases trichotomy left right with order | same | order
    · have grows := order.generation_le
      omega
    · exact same
    · have grows := order.generation_le
      omega
  subst second
  have launched := former.launched.symm.trans latter.launched
  refine ⟨rfl, ?_, congrArg Launch.started (List.singleton_inj.mp launched)⟩
  rcases former.asked with one | one <;> rcases latter.asked with other | other <;>
    cases one.symm.trans other <;> rfl

/-- A step leaves the label as it is, or attempts a launch and takes the label
of its settings. -/
theorem begins_cases (moment : Moment) :
    (launches moment.effects = [] ∧ moment.next.source = moment.state.source) ∨
      ∃ settings started,
        moment.Begins (moment.state.generation + 1) settings started ∧
          moment.next.source = settings.diagnosticsSource := by
  rcases moment.halves with ⟨told, lost, handled, _, _⟩
  cases ended : moment.state.halted with
  | true =>
      rcases turned_away ended with ⟨same, _, _, unlaunched⟩
      exact Or.inl ⟨unlaunched, congrArg Supervisor.source same⟩
  | false =>
      by_cases last : moment.event = .stop
      · refine Or.inl ⟨?_, ?_⟩
        · have nothing := handled.settings ended
          rw [last] at nothing
          exact List.map_eq_nil_iff.mp nothing
        · rw [Moment.next, last, moment.state.step_stop ended]
          rfl
      · have asked := handled.settings ended
        have label : moment.next.source = _ :=
          moment.state.step_source moment.verdict ended last
        change (launches moment.effects).map _ =
          (moment.event.wants? moment.state.generation).toList.map _ at asked
        cases wanted : moment.event.wants? moment.state.generation with
        | none =>
            rw [wanted] at asked label
            exact Or.inl ⟨List.map_eq_nil_iff.mp asked, label⟩
        | some settings =>
            rw [wanted] at asked label
            rcases List.map_eq_singleton_iff.mp asked with ⟨launch, launched, compiler⟩
            have number := moment.next_generation.2 launch (launched ▸ List.mem_cons_self)
            rcases launch with ⟨generation, used, started⟩
            cases number
            cases compiler
            refine Or.inr ⟨settings, started, ⟨?_, launched⟩, label⟩
            cases event : moment.event with
            | launch asked =>
                rw [event, Event.wants?] at wanted
                split at wanted
                · exact Or.inl (congrArg _ (Option.some.inj wanted))
                · cases wanted
            | restart asked =>
                rw [event] at wanted
                exact Or.inr (congrArg _ (Option.some.inj wanted))
            | _ =>
                rw [event] at wanted
                cases wanted

/-! ## What the ledger holds -/

/-- What the ledger holds after a step was there before and is not taken back,
or is part of a report that the event brings. -/
theorem get?_next {moment : Moment} {uri : Uri} {diagnostics : List Diagnostic}
    (tracked : moment.next.ledger.get? uri = some diagnostics) :
    (¬ (moment.state.halted = false ∧ moment.Restarts) ∧
        moment.state.ledger.get? uri = some diagnostics) ∨
      ∃ job report, moment.state.Receives moment.event job report ∧
        (moment.state.ledger.get? uri = some diagnostics ∨
          ∃ file ∈ report.files, diagnostics = file.diagnostics moment.state.source) := by
  rcases moment.changes with ⟨early, late, changes⟩
  -- What is taken back is not held any more.
  have kept : moment.middle.ledger.get? uri = some diagnostics := by
    by_cases rechecks : Rechecks (handovers moment.effects)
    · rw [(changes.rechecked rechecks).nothing] at tracked
      cases tracked
    · rw [(changes.unchecked rechecks).2] at tracked
      exact tracked
  by_cases restarts : moment.state.halted = false ∧ moment.Restarts
  · rw [(changes.restarted restarts.1 restarts.2).nothing] at kept
    cases kept
  · by_cases receives : ∃ job report, moment.state.Receives moment.event job report
    · rcases receives with ⟨job, report, receives⟩
      have takes := changes.reported job report receives
      refine Or.inr ⟨job, report, receives, ?_⟩
      cases entry : report.entry? uri with
      | none => exact Or.inl ((takes.others uri entry).symm.trans kept)
      | some file =>
          have shown := (takes.listed uri file entry).symm.trans kept
          unfold Ledger.entryFor at shown
          split at shown
          · cases shown
          · exact Or.inr ⟨file, List.mem_reverse.mp (List.mem_of_find?_eq_some entry),
              (Option.some.inj shown).symm⟩
    · have same := (changes.otherwise restarts fun job report received =>
        receives ⟨job, report, received⟩).2
      exact Or.inl ⟨restarts, same ▸ kept⟩

/-- What is withdrawn is sent without diagnostics. -/
theorem diagnostics_of_withdraws {before after : Ledger} {listed : List Publication}
    (withdraws : before.Withdraws listed after) {publication : Publication}
    (member : publication ∈ listed) : publication.diagnostics = [] :=
  List.isEmpty_iff.mp (withdraws.retracted publication member)

/-- An event has diagnostics sent only from a report that it brings, and under
the label that is in use then. -/
theorem handle_publishes (s : Supervisor) (verdict : Verdict) {event : Event}
    {publication : Publication} (sent : publication ∈ publications (s.handle verdict event).2) :
    publication.diagnostics = [] ∨
      ∃ job report, s.Receives event job report ∧
        ∃ file ∈ report.files, file.uri = publication.uri ∧
          publication.diagnostics = file.diagnostics s.source := by
  by_cases receives : ∃ job report, s.Receives event job report
  · rcases receives with ⟨job, report, receives⟩
    rw [(s.handle_enters verdict receives).2] at sent
    rcases List.mem_map.mp (Ledger.mem_of_publishAll sent) with ⟨file, listed, same⟩
    exact Or.inr ⟨job, report, receives, file, listed, congrArg Prod.fst same,
      (congrArg Prod.snd same).symm⟩
  · by_cases restarts : ∃ settings, event = .restart settings
    · rcases restarts with ⟨settings, rfl⟩
      exact Or.inl (diagnostics_of_withdraws (s.restart_withdraws verdict settings) sent)
    · have silent := s.handle_silent verdict
        (fun settings restart => restarts ⟨settings, restart⟩)
        fun job report received => receives ⟨job, report, received⟩
      rw [silent.2] at sent
      cases sent

theorem published_cases {moment : Moment} {publication : Publication}
    (sent : publication ∈ publications moment.effects) :
    publication.diagnostics = [] ∨
      ∃ job report, moment.state.Receives moment.event job report ∧
        ∃ file ∈ report.files, file.uri = publication.uri ∧
          publication.diagnostics = file.diagnostics moment.state.source := by
  cases ended : moment.state.halted with
  | true =>
      rw [(turned_away ended).2.1] at sent
      cases sent
  | false =>
      by_cases last : moment.event = .stop
      · have stepped := moment.state.step_stop ended moment.verdict
        rw [← last] at stepped
        rw [show moment.effects = moment.state.halt.2 from congrArg Prod.snd stepped,
          moment.state.halt_silent.2] at sent
        cases sent
      · have stepped := moment.state.step_of_ne_stop ended moment.verdict last
        rw [show moment.effects = _ from congrArg Prod.snd stepped, publications_append] at sent
        rcases List.mem_append.mp sent with early | late
        · exact handle_publishes moment.state moment.verdict early
        · rcases pump_cases _ moment.verdict with ⟨_, withdraws⟩ | ⟨_, silent⟩
          · exact Or.inl (diagnostics_of_withdraws withdraws late)
          · rw [silent.2] at late
            cases late

/-- Only a compiler that is held brings a report. -/
theorem held_of_receives {moment : Moment} {job : Job} {report : Report}
    (receives : moment.state.Receives moment.event job report) :
    moment.state.channel = some moment.state.generation ∧ 1 ≤ moment.state.generation := by
  rcases receives with ⟨ticket, _, flying, _⟩
  have valid := moment.desk_valid
  have held := valid.flying (Option.isSome_iff_exists.mpr ⟨ticket, flying⟩)
  exact ⟨held, (valid.held _ held).2⟩

/-- The ledger holds only what bears the label in use, which is that of the
last attempt to launch a compiler.  Before the first one it holds nothing. -/
structure Labels (events : List (Verdict × Event)) (s : Supervisor) : Prop where
  fresh : s.generation = 0 → ∀ uri, s.ledger.get? uri = none
  latest : s.generation ≠ 0 → ∃ (launch : Moment) (settings : Settings) (started : Bool),
    launch.LastIn events ∧ launch.Begins s.generation settings started ∧
      s.source = settings.diagnosticsSource
  borne : ∀ uri diagnostics, s.ledger.get? uri = some diagnostics →
    ∀ diagnostic ∈ diagnostics, diagnostic.source = s.source

/-- A step without an attempt changes neither the label nor its origin. -/
theorem Labels.next_of_unlaunched {moment : Moment}
    (labels : Labels moment.before moment.state) (unlaunched : launches moment.effects = [])
    (label : moment.next.source = moment.state.source) : Labels moment.through moment.next := by
  have generation : moment.next.generation = moment.state.generation := by
    rw [moment.next_generation.1, unlaunched]
    rfl
  refine ⟨?_, ?_, ?_⟩
  · intro first uri
    rw [generation] at first
    cases tracked : moment.next.ledger.get? uri with
    | none => rfl
    | some diagnostics =>
        rcases get?_next tracked with ⟨_, before⟩ | ⟨_, _, receives, _⟩
        · rw [labels.fresh first uri] at before
          cases before
        · have begun := (held_of_receives receives).2
          omega
  · intro begun
    rw [generation] at begun ⊢
    rcases labels.latest begun with ⟨launch, settings, started, last, begins, source⟩
    refine ⟨launch, settings, started, ⟨last.1.append _, ?_⟩, begins, label.trans source⟩
    intro later order inside
    rcases (in_through_iff later moment).mp inside with earlier | same
    · exact last.2 later order earlier
    · exact same ▸ unlaunched
  · intro uri diagnostics tracked diagnostic listed
    rw [label]
    rcases get?_next tracked with ⟨_, before⟩ | ⟨_, _, _, before | ⟨file, _, same⟩⟩
    · exact labels.borne uri diagnostics before diagnostic listed
    · exact labels.borne uri diagnostics before diagnostic listed
    · rw [same] at listed
      rcases List.mem_map.mp listed with ⟨finding, _, shown⟩
      exact shown ▸ rfl

/-- An attempt to launch a compiler leaves the ledger empty. -/
theorem Labels.next_of_begins {moment : Moment} (labels : Labels moment.before moment.state)
    {generation : Nat} {settings : Settings} {started : Bool}
    (begins : moment.Begins generation settings started)
    (label : moment.next.source = settings.diagnosticsSource) :
    Labels moment.through moment.next := by
  have empty : ∀ uri, moment.next.ledger.get? uri = none := by
    intro uri
    cases tracked : moment.next.ledger.get? uri with
    | none => rfl
    | some diagnostics =>
        rcases get?_next tracked with ⟨calm, before⟩ | ⟨_, _, ⟨_, _, _, _, said, _⟩, _⟩
        · rcases begins.first_or_restart with first | restarts
          · rw [labels.fresh first uri] at before
            cases before
          · exact absurd ⟨begins.running, restarts⟩ calm
        · rcases begins.asked with asked | asked <;> cases asked.symm.trans said
  refine ⟨fun _ => empty, ?_, ?_⟩
  · intro _
    rw [begins.generation_eq.2]
    refine ⟨moment, settings, started, ⟨moment.in_through, ?_⟩, begins, label⟩
    exact fun later order inside => absurd inside (not_in_of_precedes order)
  · intro uri diagnostics tracked
    rw [empty uri] at tracked
    cases tracked

theorem labels (events : List (Verdict × Event)) :
    Labels events (Supervisor.initial.run events).1 := by
  refine induction (P := Labels)
    ⟨fun _ _ => rfl, fun begun => absurd rfl begun, fun _ _ tracked => nomatch tracked⟩ ?_ events
  intro moment before
  rcases moment.begins_cases with ⟨unlaunched, label⟩ | ⟨settings, started, begins, label⟩
  · exact before.next_of_unlaunched unlaunched label
  · exact before.next_of_begins begins label

/-- A compiler that is held was started by the attempt that begins its
generation. -/
theorem started_of_held {events : List (Verdict × Event)} {generation : Nat}
    (held : (Supervisor.initial.run events).1.channel = some generation) {launch : Moment}
    (inside : launch.In events) {settings : Settings} {started : Bool}
    (begins : launch.Begins generation settings started) : started = true := by
  have whole : starts (Supervisor.initial.run events).2 =
      departures (Supervisor.initial.run events).2 ++
        (Supervisor.initial.run events).1.channel.toList := (run_passes events).starts_eq
  have present : generation ∈ starts (Supervisor.initial.run events).2 := by
    rw [whole, held]
    exact List.mem_append_right _ (List.mem_singleton_self _)
  rcases List.mem_map.mp present with ⟨⟨number, used, up⟩, listed, rfl⟩
  rcases List.mem_filter.mp listed with ⟨member, rfl⟩
  rcases List.mem_filterMap.mp member with ⟨effect, done, read⟩
  rcases (mem_effects_iff effect events).mp done with ⟨moment, within, acted⟩
  have launched : (⟨number, used, true⟩ : Launch) ∈ launches moment.effects :=
    List.mem_filterMap.mpr ⟨effect, acted, read⟩
  rcases moment.begins_cases with ⟨none, _⟩ | ⟨other, started', begins', _⟩
  · rw [none] at launched
    cases launched
  · rw [begins'.launched] at launched
    cases List.mem_singleton.mp launched
    exact (begins.unique inside within begins').2.2

end Moment

open Moment

/-! ## The labels of a run -/

/-- Where the labels of a run come from.  A diagnostic is traced to its launch
when it is sent, and again as long as it is held, when other launches may have
come between. -/
structure Labelled (events : List (Verdict × Event)) : Prop where
  /-- A diagnostic that is sent is a finding of a report that the compiler of a
  generation made, under the label that this compiler was launched with. -/
  published : ∀ (moment : Moment) (publication : Publication) (diagnostic : Diagnostic),
    moment.In events → publication ∈ publications moment.effects →
      diagnostic ∈ publication.diagnostics →
        ∃ (generation id : Nat) (answer : Json) (report : Report) (file : FileReport)
          (finding : Finding) (launch : Moment) (settings : Settings),
          moment.event = .compiler generation (.response id (.ok answer)) ∧
            Report.ofAnswer answer = .ok report ∧ file ∈ report.files ∧
            file.uri = publication.uri ∧ finding ∈ file.findings ∧
            launch.Precedes moment ∧ launch.Begins generation settings true ∧
            diagnostic = finding.toDiagnostic settings.diagnosticsSource
  /-- A generation is begun once, so its settings are known. -/
  unique : ∀ (first second : Moment) (generation : Nat) (settings settings' : Settings)
    (started started' : Bool), first.In events → second.In events →
      first.Begins generation settings started → second.Begins generation settings' started' →
        first = second ∧ settings = settings'
  /-- A diagnostic in the ledger bears the label of the last attempt to launch a
  compiler, which began the present generation. -/
  tracked : ∀ uri diagnostics diagnostic,
    (uri, diagnostics) ∈ (Supervisor.initial.run events).1.ledger.entries →
      diagnostic ∈ diagnostics →
        ∃ (launch : Moment) (settings : Settings) (started : Bool), launch.LastIn events ∧
          launch.Begins (Supervisor.initial.run events).1.generation settings started ∧
            diagnostic.source = settings.diagnosticsSource
  /-- Before the first attempt there is none. -/
  untracked : (Supervisor.initial.run events).1.generation = 0 →
    (Supervisor.initial.run events).1.ledger.entries = []

/-- In every run diagnostics are labelled for the compiler that they come from,
and none outlasts its compiler in the ledger. -/
theorem labelled (events : List (Verdict × Event)) : Labelled events := by
  have labels := labels events
  have found : ∀ entry ∈ (Supervisor.initial.run events).1.ledger.entries,
      (Supervisor.initial.run events).1.ledger.get? entry.1 = some entry.2 :=
    fun entry listed => Ledger.get?_of_mem (run_updates events).wellFormed listed
  refine ⟨?_, ?_, ?_, ?_⟩
  · intro moment publication diagnostic inside sent listed
    rcases published_cases sent with none | ⟨job, report, receives, file, member, uri, shown⟩
    · rw [none] at listed
      cases listed
    · rcases held_of_receives receives with ⟨held, begun⟩
      have before := Moment.labels moment.before
      rcases before.latest (Nat.one_le_iff_ne_zero.mp begun) with
        ⟨launch, settings, started, last, begins, source⟩
      cases started_of_held held last.1 begins
      rw [shown] at listed
      rcases List.mem_map.mp listed with ⟨finding, among, same⟩
      rcases receives with ⟨_, answer, _, _, said, _, read⟩
      refine ⟨_, job.id, answer, report, file, finding, launch, settings, said, read, member, uri,
        among, last.1, begins, ?_⟩
      rw [← same, show moment.state.source = settings.diagnosticsSource from source]
  · intro first second generation settings settings' started started' left right former latter
    have same := former.unique left right latter
    exact ⟨same.1, same.2.1⟩
  · intro uri diagnostics diagnostic listed member
    have held := found (uri, diagnostics) listed
    have begun : (Supervisor.initial.run events).1.generation ≠ 0 := by
      intro first
      rw [labels.fresh first uri] at held
      cases held
    rcases labels.latest begun with ⟨launch, settings, started, last, begins, source⟩
    exact ⟨launch, settings, started, last, begins,
      (labels.borne uri diagnostics held diagnostic member).trans source⟩
  · intro first
    refine List.eq_nil_iff_forall_not_mem.mpr fun entry listed => ?_
    have held := found entry listed
    rw [labels.fresh first entry.1] at held
    cases held

end CompilerRelay
