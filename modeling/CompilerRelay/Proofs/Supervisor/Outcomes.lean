import CompilerRelay.Proofs.Message.Identifier
import CompilerRelay.Proofs.Supervisor.Order
import CompilerRelay.Proofs.Supervisor.Waiters

/-!
# What waiters are told, and why

`Moment.Tells` lists all reasons for which a step tells a waiter something,
each with what is told then, and `Resolves` says of a run that exactly this is
told, to each waiter at most once, and who is not told yet.

A run is given by the events that were handled and by those that wait.  When
the supervisor ends, those that wait are turned away, which tells their
waiters that there is no compiler.  An answer counts when it comes from the
compiler that was handed the job, while the job is in flight.  It is then the
first one, because the job is not in flight after it; what is said about a job
that is not in flight is nobody's answer.
-/

namespace CompilerRelay

open Effect

theorem Ticket.mem_resolve {ticket : Ticket} {outcome : Outcome} {resolution : Resolution} :
    resolution ∈ ticket.resolve outcome ↔
      ticket.waiter = some resolution.waiter ∧ resolution.outcome = outcome := by
  rcases ticket with ⟨job, waiter⟩
  rcases resolution with ⟨other, answer⟩
  cases waiter <;> simp [resolve, eq_comm]

theorem JobQueue.mem_losses {jobs : JobQueue} {resolution : Resolution} :
    resolution ∈ jobs.losses ↔ (∃ ticket ∈ jobs.outstanding,
      ticket.waiter = some resolution.waiter) ∧ resolution.outcome = .error .unavailable := by
  rw [losses, List.mem_flatMap]
  constructor
  · rintro ⟨ticket, listed, member⟩
    rcases Ticket.mem_resolve.mp member with ⟨own, outcome⟩
    exact ⟨⟨ticket, listed, own⟩, outcome⟩
  · rintro ⟨⟨ticket, listed, own⟩, outcome⟩
    exact ⟨ticket, listed, Ticket.mem_resolve.mpr ⟨own, outcome⟩⟩

namespace Desk

/-- By this event every outstanding job is lost: the compiler ended, the first
launch fails, the compiler is to be replaced, or everything ends. -/
def Loses (verdict : Verdict) (desk : Desk) : Event → Prop
  | .launch settings => desk.generation = 0 ∧ ∃ cause, verdict.launch settings.compiler = some cause
  | .restart _ => True
  | .compiler generation event => generation = desk.generation ∧ event = .exited
  | .stop => True
  | _ => False

theorem Loss.loses {verdict : Verdict} {desk after : Desk} {event : Event}
    {launches : List Launch} (loss : Loss verdict desk event after launches) :
    desk.Loses verdict event := by
  cases loss with
  | launchFailed first failed => exact ⟨first, _, failed⟩
  | restarted => trivial
  | restartFailed => trivial
  | exited => exact ⟨rfl, rfl⟩
  | stopped => trivial

variable {verdict : Verdict} {desk after : Desk} {event : Event} {begun : List Launch}
  {told : List Resolution}

/-- All that is told when an event is handled. -/
theorem Handles.told_cases (handled : Handles verdict desk event after begun told)
    {resolution : Resolution} (member : resolution ∈ told) :
    (desk.Loses verdict event ∧ resolution ∈ desk.jobs.losses) ∨
    (∃ request waiter, event = .submit request waiter ∧
      resolution ∈ (desk.jobs.submit request waiter).resolved) ∨
    ∃ ticket said, desk.jobs.inFlight = some ticket ∧ event = .compiler desk.generation said ∧
      said.outcomeFor? ticket.job.id = some resolution.outcome ∧
        ticket.waiter = some resolution.waiter := by
  cases handled with
  | lost running loss => exact Or.inl ⟨loss.loses, member⟩
  | submitted request waiter => exact Or.inr (Or.inl ⟨request, waiter, rfl, member⟩)
  | concluded running flying settles =>
      rcases Ticket.mem_resolve.mp member with ⟨own, outcome⟩
      exact Or.inr (Or.inr ⟨_, _, flying, rfl, outcome ▸ settles, own⟩)
  | _ => cases member

theorem Handles.told_of_loses (handled : Handles verdict desk event after begun told)
    (running : desk.halted = false) (loses : desk.Loses verdict event) :
    told = desk.jobs.losses := by
  cases handled with
  | ignored ignores =>
      rcases ignores with ⟨ended, _⟩ | ignores
      · rw [running] at ended
        cases ended
      · cases event with
        | launch settings => exact absurd loses.1 ignores
        | compiler generation said =>
            rcases ignores with other | ⟨alive, _⟩
            · exact absurd loses.1 other
            · exact absurd loses.2 alive
        | restart => exact ignores.elim
        | submit => exact loses.elim
        | status => exact loses.elim
        | stop => exact ignores.elim
  | launched running first started =>
      rcases loses with ⟨_, cause, failed⟩
      rw [started] at failed
      cases failed
  | lost => rfl
  | submitted => exact loses.elim
  | readied => cases loses.2
  | concluded running flying settles =>
      rw [loses.2] at settles
      cases settles

theorem Handles.told_of_settles {said : CompilerEvent}
    (handled : Handles verdict desk (.compiler desk.generation said) after begun told)
    (valid : desk.Valid) {ticket : Ticket} (flying : desk.jobs.inFlight = some ticket)
    {outcome : Outcome} (settles : said.outcomeFor? ticket.job.id = some outcome) :
    told = ticket.resolve outcome := by
  generalize spoken : Event.compiler desk.generation said = event at handled
  cases handled with
  | ignored ignores =>
      subst spoken
      rcases ignores with ⟨ended, _⟩ | other | ⟨_, _, silent⟩
      · rw [valid.jobs.inFlight_of_exited (valid.ended ended)] at flying
        cases flying
      · exact absurd rfl other
      · rw [silent ticket flying] at settles
        cases settles
  | launched => cases spoken
  | lost running loss =>
      cases loss with
      | exited =>
          cases spoken
          cases settles
      | _ => cases spoken
  | submitted => cases spoken
  | readied =>
      cases spoken
      cases settles
  | @concluded other ticket' outcome' running flying' settles' =>
      cases spoken
      rw [flying] at flying'
      cases flying'
      rw [settles] at settles'
      cases settles'
      rfl

end Desk

namespace Moment

/-- The waiter belongs to the ticket of a request that was accepted. -/
def Owns (events : List (Verdict × Event)) (waiter : Waiter) (ticket : Ticket) : Prop :=
  ticket.waiter = some waiter ∧
    ∃ accepted : Moment, accepted.In events ∧ accepted.Accepts ticket

/-- A job is to be handed over, and no compiler takes it: the compiler refuses
it, or none is held. -/
def Undelivers (moment : Moment) : Prop :=
  ∃ job jobs cause, moment.middle.jobs.drive = some (job, jobs) ∧
    moment.middle.refusal? moment.verdict job = some cause

/-- There is no compiler for a waiter: its request is refused because the
compiler is gone, or its job is lost while it is queued or in flight. -/
inductive Forsakes (moment : Moment) (waiter : Waiter) : Prop
  | refused {request : Request} (submitted : moment.event = .submit request (some waiter))
      (gone : moment.state.jobs.phase = .exited)
  | lost {ticket : Ticket} (own : Owns moment.before waiter ticket)
      (outstanding : ticket ∈ moment.state.jobs.outstanding)
      (loses : moment.state.desk.Loses moment.verdict moment.event)
  | undelivered {ticket : Ticket} (own : Owns moment.through waiter ticket)
      (outstanding : ticket ∈ moment.middle.jobs.outstanding) (undelivers : moment.Undelivers)

/-- What a waiter is told in a step, and why.  A reason determines what is told,
unless the compiler does. -/
inductive Tells (moment : Moment) (waiter : Waiter) : Outcome → Prop
  | forsaken (forsakes : moment.Forsakes waiter) : Tells moment waiter (.error .unavailable)
  /-- A later request to recompile the document takes the queued job's place. -/
  | superseded {old new : Ticket} (own : Owns moment.before waiter old)
      (replaces : moment.Replaces old new) : Tells moment waiter (.error .superseded)
  /-- The compiler that has the job answers it, for the first time. -/
  | answered {ticket : Ticket} {generation : Nat} {outcome : Outcome}
      (own : Owns moment.before waiter ticket) (flying : moment.state.jobs.inFlight = some ticket)
      (current : moment.state.generation = generation)
      (carries : Carries moment.before moment.before generation ticket.job)
      (said : moment.event = .compiler generation (.response ticket.job.id outcome)) :
      Tells moment waiter outcome
  /-- The compiler that has the job says something that cannot be read. -/
  | garbled {ticket : Ticket} {generation : Nat} {reason : String}
      (own : Owns moment.before waiter ticket) (flying : moment.state.jobs.inFlight = some ticket)
      (current : moment.state.generation = generation)
      (carries : Carries moment.before moment.before generation ticket.job)
      (said : moment.event = .compiler generation (.unmatched reason)) :
      Tells moment waiter (.error (.garbled reason))

/-! ## The reasons are the only ones -/

theorem Owns.through {moment : Moment} {waiter : Waiter} {ticket : Ticket}
    (own : Owns moment.before waiter ticket) : Owns moment.through waiter ticket := by
  rcases own with ⟨kept, accepted, inside, accepts⟩
  exact ⟨kept, accepted, inside.append _, accepts⟩

/-- Only accepted tickets are queued or in flight. -/
theorem Entered.owns {ticket : Ticket} {heard : List (Verdict × Event)} {generation : Nat}
    (entered : Entered ticket heard generation) {waiter : Waiter}
    (kept : ticket.waiter = some waiter) : Owns heard waiter ticket := by
  rcases entered with ⟨accepted, inside, accepts, _⟩
  exact ⟨kept, accepted, inside, accepts⟩

theorem owns_of_outstanding {moment : Moment} {ticket : Ticket}
    (outstanding : ticket ∈ moment.state.jobs.outstanding) {waiter : Waiter}
    (kept : ticket.waiter = some waiter) : Owns moment.before waiter ticket :=
  Entered.owns (preserved_entered.state moment ticket outstanding) kept

/-- In the middle of a step the job of the current event may be outstanding. -/
theorem owns_of_middle {moment : Moment} {ticket : Ticket}
    (outstanding : ticket ∈ moment.middle.jobs.outstanding) {waiter : Waiter}
    (kept : ticket.waiter = some waiter) : Owns moment.through waiter ticket :=
  Entered.owns (preserved_entered.middle moment ticket outstanding) kept

theorem undelivers_iff {moment : Moment} {after : Desk} {given : List Handover}
    {lost : List Resolution}
    (pumped : Desk.Pumps moment.verdict moment.middle.desk after given lost) :
    (moment.Undelivers → lost = moment.middle.jobs.losses) ∧
      (lost ≠ [] → moment.Undelivers ∧ lost = moment.middle.jobs.losses) := by
  cases pumped with
  | idle nothing =>
      refine ⟨?_, fun some_lost => absurd rfl some_lost⟩
      rintro ⟨job, jobs, cause, driven, _⟩
      rw [moment.middle.jobs.drive_eq_none_iff.mpr nothing] at driven
      cases driven
  | taken ready free split held accepts =>
      refine ⟨?_, fun some_lost => absurd rfl some_lost⟩
      rintro ⟨job, jobs, cause, driven, refused⟩
      rcases (moment.middle.jobs.drive_eq_some_iff jobs job).mp driven with
        ⟨ticket, rest, _, _, split', rfl, _⟩
      have same := List.cons.inj (split.symm.trans split')
      have channel : moment.middle.channel = _ := held
      rw [Supervisor.refusal?, channel] at refused
      change moment.verdict.dispatch ticket.job = some cause at refused
      rw [← same.1, accepts] at refused
      cases refused
  | @failed ticket rest ready free split refuses =>
      refine ⟨fun _ => rfl, fun _ => ⟨?_, rfl⟩⟩
      have driven := (moment.middle.jobs.drive_eq_some_iff _ _).mpr
        ⟨ticket, rest, ready, free, split, rfl, rfl⟩
      have refused : ∃ cause, moment.middle.refusal? moment.verdict ticket.job = some cause := by
        unfold Supervisor.refusal?
        rcases refuses with absent | ⟨cause, refuses⟩
        · rw [show moment.middle.channel = none from absent]
          exact ⟨_, rfl⟩
        · cases moment.middle.channel with
          | none => exact ⟨_, rfl⟩
          | some generation => exact ⟨cause, refuses⟩
      rcases refused with ⟨cause, refused⟩
      exact ⟨_, _, cause, driven, refused⟩

theorem tells_of_mem {moment : Moment} {waiter : Waiter} {outcome : Outcome}
    (member : ⟨waiter, outcome⟩ ∈ resolutions moment.effects) : moment.Tells waiter outcome := by
  rcases moment.halves with ⟨told, lost, handled, pumped, resolved⟩
  rw [resolved] at member
  rcases List.mem_append.mp member with now | late
  · rcases handled.told_cases now with ⟨loses, listed⟩ | ⟨request, keeper, submitted, listed⟩ |
      ⟨ticket, said, flying, event, settles, kept⟩
    · rcases JobQueue.mem_losses.mp listed with ⟨⟨ticket, outstanding, kept⟩, same⟩
      change outcome = _ at same
      subst same
      exact .forsaken (.lost (owns_of_outstanding outstanding kept) outstanding loses)
    · have submits := moment.state.desk.jobs.submit_cases request keeper
      generalize moment.state.desk.jobs.submit request keeper = submission at submits listed
      cases submits with
      | refused gone =>
          rcases Ticket.mem_resolve.mp listed with ⟨kept, same⟩
          change outcome = _ at same
          change keeper = some waiter at kept
          subst same
          subst kept
          exact .forsaken (.refused submitted gone)
      | replaced present uri front old back key split oldKey found =>
          rcases Ticket.mem_resolve.mp listed with ⟨kept, same⟩
          change outcome = _ at same
          subst same
          have queued : old ∈ moment.state.jobs.queue :=
            split ▸ List.mem_append_right _ List.mem_cons_self
          have replaces : moment.Replaces old (moment.state.desk.jobs.ticket request keeper) :=
            replaces_of_found submitted rfl present rfl key found
          exact .superseded
            (owns_of_outstanding (JobQueue.mem_outstanding.mpr (Or.inr queued)) kept) replaces
      | appended => cases listed
    · have own := owns_of_outstanding (JobQueue.mem_outstanding.mpr (Or.inl flying)) kept
      have carries := preserved_carried.state moment ticket flying
      rcases CompilerEvent.cases_of_outcomeFor? settles with answered | ⟨reason, unread, same⟩
      · exact .answered own flying rfl carries (event.trans (by rw [answered]; rfl))
      · change outcome = _ at same
        subst same
        exact .garbled own flying rfl carries (event.trans (by rw [unread]; rfl))
  · rcases (undelivers_iff pumped).2 (List.ne_nil_of_mem late) with ⟨undelivers, same⟩
    rw [same] at late
    rcases JobQueue.mem_losses.mp late with ⟨⟨ticket, outstanding, kept⟩, same⟩
    change outcome = _ at same
    subst same
    exact .forsaken (.undelivered (owns_of_middle outstanding kept) outstanding undelivers)

theorem mem_of_tells {moment : Moment} {waiter : Waiter} {outcome : Outcome}
    (tells : moment.Tells waiter outcome) : ⟨waiter, outcome⟩ ∈ resolutions moment.effects := by
  rcases moment.halves with ⟨told, lost, handled, pumped, resolved⟩
  rw [resolved]
  have flies : ∀ {ticket : Ticket} {said : CompilerEvent} {outcome : Outcome},
      moment.state.jobs.inFlight = some ticket → ticket.waiter = some waiter →
        moment.event = .compiler moment.state.generation said →
          said.outcomeFor? ticket.job.id = some outcome → ⟨waiter, outcome⟩ ∈ told ++ lost := by
    intro ticket said outcome flying kept event settles
    rw [event] at handled
    rw [handled.told_of_settles moment.desk_valid flying settles]
    exact List.mem_append_left _ (Ticket.mem_resolve.mpr ⟨kept, rfl⟩)
  cases tells with
  | forsaken forsakes =>
      cases forsakes with
      | refused submitted gone =>
          rw [submitted] at handled
          rw [handled.submit_eq.2, moment.state.desk.jobs.submit_of_exited gone]
          exact List.mem_append_left _ (Ticket.mem_resolve.mpr ⟨rfl, rfl⟩)
      | lost own outstanding loses =>
          have running : moment.state.desk.halted = false := by
            refine Bool.eq_false_iff.mpr fun ended => ?_
            have nothing := moment.desk_valid.jobs.outstanding_of_exited
              (moment.desk_valid.ended ended)
            rw [show moment.state.jobs.outstanding = [] from nothing] at outstanding
            cases outstanding
          rw [handled.told_of_loses running loses]
          exact List.mem_append_left _
            (JobQueue.mem_losses.mpr ⟨⟨_, outstanding, own.1⟩, rfl⟩)
      | undelivered own outstanding undelivers =>
          rw [(undelivers_iff pumped).1 undelivers]
          exact List.mem_append_right _
            (JobQueue.mem_losses.mpr ⟨⟨_, outstanding, own.1⟩, rfl⟩)
  | superseded own replaces =>
      rw [(replaces.place handled).2]
      exact List.mem_append_left _ (Ticket.mem_resolve.mpr ⟨own.1, rfl⟩)
  | answered own flying current carries said =>
      have settles : ∀ id, (CompilerEvent.response id outcome).outcomeFor? id = some outcome :=
        fun _ => if_pos rfl
      exact flies flying own.1 (current ▸ said) (settles _)
  | garbled own flying current carries said => exact flies flying own.1 (current ▸ said) rfl

/-- A waiter is told something exactly for one of the reasons. -/
theorem tells_iff (moment : Moment) (waiter : Waiter) (outcome : Outcome) :
    ⟨waiter, outcome⟩ ∈ resolutions moment.effects ↔ moment.Tells waiter outcome :=
  ⟨tells_of_mem, mem_of_tells⟩

end Moment

/-! ## The waiters of a run -/

open Moment

/-- What waiters were told when some events were handled and others wait.  Once
the supervisor has ended, those that wait are turned away. -/
def told (handled : List (Verdict × Event)) (waiting : List Event) : List Resolution :=
  resolutions ((Supervisor.initial.run handled).2 ++
    if (Supervisor.initial.run handled).1.halted then waiting.flatMap Event.unhandled else [])

/-- The request of a waiter was not handled before the supervisor ended. -/
def TurnedAway (handled : List (Verdict × Event)) (waiting : List Event) (waiter : Waiter) : Prop :=
  (Supervisor.initial.run handled).1.halted = true ∧
    ∃ request, Event.submit request (some waiter) ∈ waiting

/-- Every answer was read from a line that a compiler wrote.  Who wrote it, and
when, does not matter here; it only excludes answers that no line can give. -/
def Genuine (events : List (Verdict × Event)) : Prop :=
  ∀ verdict generation id outcome,
    (verdict, Event.compiler generation (.response id outcome)) ∈ events →
      ∃ line, CompilerEvent.ofLine line = some (.response id outcome)

/-- No line says that there is no compiler, or that a job was replaced. -/
theorem CompilerEvent.outcome_of_ofLine {line : List Char} {id : Nat} {outcome : Outcome}
    (read : CompilerEvent.ofLine line = some (.response id outcome)) :
    outcome ≠ .error .unavailable ∧ outcome ≠ .error .superseded := by
  unfold CompilerEvent.ofLine at read
  by_cases blank : (Text.trim line).isEmpty = true
  · simp only [if_pos blank] at read
    cases read
  · simp only [if_neg blank] at read
    cases parsed : Message.parse (Text.trim line) with
    | ok message =>
        rw [parsed] at read
        have event := Option.some.inj read
        cases message with
        | result other value =>
            cases event
            exact ⟨(nomatch ·), (nomatch ·)⟩
        | error other message =>
            cases event
            exact ⟨(nomatch ·), (nomatch ·)⟩
        | _ => cases event
    | error reason =>
        rw [parsed] at read
        cases found : Message.recoverId (Text.trim line) with
        | none =>
            rw [found] at read
            cases read
        | some other =>
            rw [found] at read
            cases read
            exact ⟨(nomatch ·), (nomatch ·)⟩

theorem Genuine.answer {events : List (Verdict × Event)} (genuine : Genuine events)
    {moment : Moment} (inside : moment.In events) {generation id : Nat} {outcome : Outcome}
    (said : moment.event = .compiler generation (.response id outcome)) :
    outcome ≠ .error .unavailable ∧ outcome ≠ .error .superseded := by
  have heard := inside.mem
  rw [said] at heard
  rcases genuine _ _ _ _ heard with ⟨line, read⟩
  exact CompilerEvent.outcome_of_ofLine read

/-- What becomes of the waiters of a run.  All fields but the last two hold
whatever compilers say; those two name one reason each, which an answer could
imitate if it came from nowhere. -/
structure Resolves (handled : List (Verdict × Event)) (waiting : List Event) : Prop where
  /-- Nobody is told twice. -/
  once : ((told handled waiting).map (·.waiter)).Nodup
  /-- Each waiter has one job, whose end it is told. -/
  own : ∀ (waiter : Waiter) (first second : Ticket), Owns handled waiter first →
    Owns handled waiter second → first = second
  /-- A waiter is not told yet exactly while the supervisor runs and its request
  waits or its job is queued or in flight. -/
  unresolved : ∀ waiter ∈ waiters (handled.map (·.2) ++ waiting),
    waiter ∉ (told handled waiting).map (·.waiter) ↔
      (Supervisor.initial.run handled).1.halted = false ∧ (waiter ∈ waiters waiting ∨
        ∃ ticket ∈ (Supervisor.initial.run handled).1.jobs.outstanding,
          Owns handled waiter ticket)
  /-- Whatever is told is told for a reason, and for every reason it is told. -/
  caused : ∀ waiter outcome, ⟨waiter, outcome⟩ ∈ told handled waiting ↔
    (∃ moment : Moment, moment.In handled ∧ moment.Tells waiter outcome) ∨
      TurnedAway handled waiting waiter ∧ outcome = .error .unavailable
  /-- That a job was superseded is told only when a queued recompilation was
  replaced. -/
  superseded : Genuine handled → ∀ waiter, ⟨waiter, .error .superseded⟩ ∈ told handled waiting →
    ∃ (moment : Moment) (old new : Ticket), moment.In handled ∧ Owns moment.before waiter old ∧
      moment.Replaces old new ∧ old.job.kind.category = .recompile
  /-- That there is no compiler is told exactly to those who are forsaken or
  turned away. -/
  unavailable : Genuine handled → ∀ waiter,
    ⟨waiter, .error .unavailable⟩ ∈ told handled waiting ↔
      (∃ moment : Moment, moment.In handled ∧ moment.Forsakes waiter) ∨
        TurnedAway handled waiting waiter

private theorem mem_told {handled : List (Verdict × Event)} {waiting : List Event}
    {waiter : Waiter} {outcome : Outcome} : ⟨waiter, outcome⟩ ∈ told handled waiting ↔
      (∃ moment : Moment, moment.In handled ∧ moment.Tells waiter outcome) ∨
        TurnedAway handled waiting waiter ∧ outcome = .error .unavailable := by
  have steps : ⟨waiter, outcome⟩ ∈ resolutions (Supervisor.initial.run handled).2 ↔
      ∃ moment : Moment, moment.In handled ∧ moment.Tells waiter outcome := by
    rw [mem_resolutions, mem_effects_iff]
    refine exists_congr fun moment => and_congr_right fun _ => ?_
    rw [← tells_iff, mem_resolutions]
  rw [told, resolutions_append, List.mem_append, steps]
  refine or_congr Iff.rfl ?_
  unfold TurnedAway
  cases (Supervisor.initial.run handled).1.halted with
  | true =>
      rw [if_pos rfl, mem_unhandled]
      simp only [true_and]
  | false => simp [resolutions]

/-- To turn events away after the end is to handle them then. -/
private theorem told_of_halted {handled : List (Verdict × Event)}
    (ended : (Supervisor.initial.run handled).1.halted = true) (waiting : List Event)
    (verdict : Verdict) : told handled waiting =
      resolutions (Supervisor.initial.run (handled ++ waiting.map (verdict, ·))).2 := by
  rw [told, if_pos ended, Supervisor.run_append, Supervisor.run_of_halted _ ended,
    List.flatMap_map]

/-- After the end, everybody was told. -/
private theorem told_perm_of_halted {handled : List (Verdict × Event)} {waiting : List Event}
    (ended : (Supervisor.initial.run handled).1.halted = true) :
    ((told handled waiting).map (·.waiter)).Perm (waiters (handled.map (·.2) ++ waiting)) := by
  let willing : Verdict := ⟨fun _ => none, fun _ => none⟩
  have valid := run_desk_valid handled
  have nobody : (Supervisor.initial.run handled).1.jobs.waiting = [] := by
    rw [JobQueue.waiting]
    rw [show (Supervisor.initial.run handled).1.jobs.outstanding = [] from
      valid.jobs.outstanding_of_exited (valid.ended ended)]
    rfl
  have law := waiters_perm (handled ++ waiting.map (willing, ·))
  have events : (handled ++ waiting.map (willing, ·)).map (·.2) =
      handled.map (·.2) ++ waiting := by
    rw [List.map_append, List.map_map]
    exact congrArg (_ ++ ·) (List.map_id _)
  rw [← told_of_halted ended, events, Supervisor.run_append, Supervisor.run_of_halted _ ended,
    nobody, List.append_nil] at law
  exact law

/-- Before the end, everybody was told, or has a job, or is yet to be handled. -/
private theorem told_perm_of_running {handled : List (Verdict × Event)} {waiting : List Event}
    (running : (Supervisor.initial.run handled).1.halted = false) :
    ((told handled waiting).map (·.waiter) ++
      ((Supervisor.initial.run handled).1.jobs.waiting ++ waiters waiting)).Perm
        (waiters (handled.map (·.2) ++ waiting)) := by
  rw [told, running, if_neg Bool.false_ne_true, List.append_nil, waiters_append,
    ← List.append_assoc]
  exact (waiters_perm handled).append_right _

/-- Whatever happens, waiters that are distinct are told at most once, for one
of the reasons, and as soon as there is one. -/
theorem resolves (handled : List (Verdict × Event)) (waiting : List Event)
    (distinct : (waiters (handled.map (·.2) ++ waiting)).Nodup) : Resolves handled waiting where
  once := by
    cases ended : (Supervisor.initial.run handled).1.halted with
    | true => exact (told_perm_of_halted ended).nodup_iff.mpr distinct
    | false => exact ((told_perm_of_running ended).nodup_iff.mpr distinct).of_append_left
  own := by
    rintro waiter first second ⟨former, early, left, accepts⟩ ⟨latter, late, right, accepts'⟩
    rw [waiters_append] at distinct
    have brings : early.event.waiter? = some waiter := by rw [accepts.2.1, ← former]; rfl
    have brings' : late.event.waiter? = some waiter := by rw [accepts'.2.1, ← latter]; rfl
    have same := Moment.eq_of_waiter distinct.of_append_left left right brings brings'
    subst same
    exact accepts.ticket_unique accepts'
  unresolved := by
    intro waiter listed
    cases ended : (Supervisor.initial.run handled).1.halted with
    | true =>
        have answered := (told_perm_of_halted ended).mem_iff.mpr listed
        exact ⟨fun silent => absurd answered silent, fun running => nomatch running.1⟩
    | false =>
        have law := @told_perm_of_running handled waiting ended
        have apart := (List.nodup_append.mp (law.nodup_iff.mpr distinct)).2.2
        constructor
        · intro silent
          refine ⟨rfl, ?_⟩
          rcases List.mem_append.mp (law.mem_iff.mpr listed) with answered | rest
          · exact absurd answered silent
          · rcases List.mem_append.mp rest with holds | waits
            · rcases List.mem_filterMap.mp holds with ⟨ticket, outstanding, kept⟩
              exact Or.inr ⟨ticket, outstanding,
                Entered.owns (preserved_entered.holds handled ticket outstanding) kept⟩
            · exact Or.inl waits
        · rintro ⟨_, waits | ⟨ticket, outstanding, kept, _⟩⟩ answered
          · exact apart waiter answered waiter (List.mem_append_right _ waits) rfl
          · refine apart waiter answered waiter (List.mem_append_left _ ?_) rfl
            exact List.mem_filterMap.mpr ⟨ticket, outstanding, kept⟩
  caused := fun _ _ => mem_told
  superseded := by
    intro genuine waiter listed
    rcases mem_told.mp listed with ⟨moment, inside, tells⟩ | ⟨_, impossible⟩
    · generalize outcome_eq : Except.error JobError.superseded = outcome at tells
      cases tells with
      | forsaken => cases outcome_eq
      | superseded own replaces =>
          rcases replaces.keys with ⟨uri, oldKey, _⟩
          exact ⟨moment, _, _, inside, own, replaces, Request.category_of_coalesceKey oldKey⟩
      | answered own flying current carries said =>
          exact absurd outcome_eq.symm (genuine.answer inside said).2
      | garbled => cases outcome_eq
    · cases impossible
  unavailable := by
    intro genuine waiter
    rw [mem_told]
    constructor
    · rintro (⟨moment, inside, tells⟩ | ⟨away, _⟩)
      · refine Or.inl ⟨moment, inside, ?_⟩
        generalize outcome_eq : Except.error JobError.unavailable = outcome at tells
        cases tells with
        | forsaken forsakes => exact forsakes
        | superseded => cases outcome_eq
        | answered own flying current carries said =>
            exact absurd outcome_eq.symm (genuine.answer inside said).1
        | garbled => cases outcome_eq
      · exact Or.inr away
    · rintro (⟨moment, inside, forsakes⟩ | away)
      · exact Or.inl ⟨moment, inside, .forsaken forsakes⟩
      · exact Or.inr ⟨away, rfl⟩

/-! ## A run with a replaced job and a lost one -/

/-- While a question is answered, a change that is queued gives its place to a
later one, which is lost when the compiler ends. -/
def interrupted : List (Verdict × Event) :=
  let willing : Verdict := ⟨fun _ => none, fun _ => none⟩
  let change (version : Int) : Request := .documentChanged ⟨⟨"a"⟩, version, "text"⟩
  [(willing, .launch {}), (willing, .compiler 1 .ready),
    (willing, .submit (.hover ⟨⟨"a"⟩, ⟨0, 0⟩⟩) (some 1)), (willing, .submit (change 1) (some 2)),
    (willing, .submit (change 2) (some 3)), (willing, .compiler 1 (.response 1 (.ok .null))),
    (willing, .compiler 1 .exited)]

theorem genuine_interrupted : Genuine interrupted := by
  intro verdict generation id outcome listed
  simp only [interrupted, List.mem_cons, Prod.mk.injEq, reduceCtorEq, and_false, false_or,
    Event.compiler.injEq, CompilerEvent.response.injEq, List.not_mem_nil, or_false] at listed
  rcases listed with ⟨_, _, rfl, rfl⟩
  exact ⟨_, CompilerEvent.ofLine_result (by decide) ⟨trivial, Nat.zero_le 126, rfl⟩⟩

/-- Of four waiters one is told its answer, one that its job was replaced and
one that there is no compiler.  The request of the last one is not handled. -/
theorem resolves_interrupted :
    let waiting : List Event := [.submit (.hover ⟨⟨"b"⟩, ⟨0, 0⟩⟩) (some 4)]
    (waiters (interrupted.map (·.2) ++ waiting)).Nodup ∧ Genuine interrupted ∧
      Resolves interrupted waiting ∧ told interrupted waiting =
        [⟨2, .error .superseded⟩, ⟨1, .ok .null⟩, ⟨3, .error .unavailable⟩] ∧
      (∃ (moment : Moment) (old new : Ticket), moment.In interrupted ∧
        Owns moment.before 2 old ∧ moment.Replaces old new ∧
          old.job.kind.category = .recompile) ∧
      ∃ moment : Moment, moment.In interrupted ∧ moment.Forsakes 3 := by
  intro waiting
  have distinct : (waiters (interrupted.map (·.2) ++ waiting)).Nodup := by decide
  have resolved := resolves interrupted waiting distinct
  have said : told interrupted waiting =
      [⟨2, .error .superseded⟩, ⟨1, .ok .null⟩, ⟨3, .error .unavailable⟩] := rfl
  have running : (Supervisor.initial.run interrupted).1.halted = false := rfl
  have replaced := resolved.superseded genuine_interrupted 2
  have lost := (resolved.unavailable genuine_interrupted 3).mp
  rw [said] at replaced lost
  refine ⟨distinct, genuine_interrupted, resolved, said, replaced List.mem_cons_self, ?_⟩
  rcases lost (by simp) with forsaken | away
  · exact forsaken
  · exact nomatch running.symm.trans away.1

end CompilerRelay
