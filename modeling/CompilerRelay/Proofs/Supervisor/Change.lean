import CompilerRelay.Proofs.Supervisor.Desk

/-!
# What changes when an event is handled

The relations on desks say how a step goes.  This module says what follows for
one thing at a time: the generation, the compiler that is held, the phase, the
queue (`Requeues`), a ticket that is outstanding (`Remains`), and the ticket in
flight (`Flies`).  Invariants argue from these and need no case for an event
that does not concern them.
-/

namespace CompilerRelay
namespace Desk

/-- Only the first queued job is offered, only to the compiler that is held,
and only while it is ready and nothing is in flight. -/
theorem Pumps.offered {verdict : Verdict} {desk after : Desk} {handed : List Handover}
    {lost : List Resolution} (pumped : Pumps verdict desk after handed lost)
    {handover : Handover} (member : handover ∈ handed) :
    ∃ ticket rest, desk.jobs.phase = .ready ∧ desk.jobs.inFlight = none ∧
      desk.jobs.queue = ticket :: rest ∧ desk.channel = some handover.generation ∧
        ticket.job = handover.job := by
  cases pumped with
  | idle => cases member
  | taken ready free split held accepts =>
      have same := List.mem_singleton.mp member
      subst same
      exact ⟨_, _, ready, free, split, held, rfl⟩
  | failed ready free split refuses =>
      rcases List.mem_map.mp member with ⟨generation, held, same⟩
      subst same
      exact ⟨_, _, ready, free, split, Option.mem_toList.mp held, rfl⟩

/-- A queued job is handed over, stays in the queue, or is lost. -/
theorem Pumps.handed_sublist {verdict : Verdict} {desk after : Desk} {handed : List Handover}
    {lost : List Resolution} (pumped : Pumps verdict desk after handed lost) :
    (handed.map (·.job) ++ after.jobs.queue.map (·.job)).Sublist
      (desk.jobs.queue.map (·.job)) := by
  cases pumped with
  | idle => exact List.Sublist.refl _
  | taken ready free split held accepts =>
      rw [split]
      exact List.Sublist.refl _
  | failed ready free split refuses =>
      rw [split]
      cases desk.channel with
      | none => exact List.nil_sublist _
      | some generation => exact List.Sublist.cons_cons _ (List.nil_sublist _)

theorem Pumps.generation_eq {verdict : Verdict} {desk after : Desk} {handed : List Handover}
    {lost : List Resolution} (pumped : Pumps verdict desk after handed lost) :
    after.generation = desk.generation := by
  cases pumped <;> rfl

/-- A launch begins the next generation; nothing else changes the generation. -/
theorem Handles.generation_eq {verdict : Verdict} {desk after : Desk} {event : Event}
    {begun : List Launch} {told : List Resolution}
    (handled : Handles verdict desk event after begun told) :
    after.generation = desk.generation + begun.length ∧
      ∀ launch ∈ begun, launch.generation = desk.generation + 1 := by
  have single : ∀ settings started, ∀ launch ∈ [Launch.mk (desk.generation + 1) settings started],
      launch.generation = desk.generation + 1 := by
    intro settings started launch member
    rw [List.mem_singleton.mp member]
  have nothing : ∀ launch ∈ ([] : List Launch), launch.generation = desk.generation + 1 :=
    fun _ member => absurd member List.not_mem_nil
  cases handled with
  | launched => exact ⟨rfl, single _ _⟩
  | lost running loss =>
      cases loss with
      | launchFailed => exact ⟨rfl, single _ _⟩
      | restarted => exact ⟨rfl, single _ _⟩
      | restartFailed => exact ⟨rfl, single _ _⟩
      | exited => exact ⟨rfl, nothing⟩
      | stopped => exact ⟨rfl, nothing⟩
  | _ => exact ⟨rfl, nothing⟩

/-- A compiler is held because it was held before, or because it was launched
now. -/
theorem Handles.channel_cases {verdict : Verdict} {desk after : Desk} {event : Event}
    {begun : List Launch} {told : List Resolution}
    (handled : Handles verdict desk event after begun told) :
    (∀ launch ∈ begun, launch.started = false) ∧
        (after.channel = none ∨ after.channel = desk.channel) ∨
      ∃ settings, begun = [⟨desk.generation + 1, settings, true⟩] ∧
        verdict.launch settings = none ∧ after.channel = some (desk.generation + 1) := by
  have none : ∀ launch ∈ ([] : List Launch), launch.started = false :=
    fun _ listed => absurd listed List.not_mem_nil
  have failed : ∀ generation settings, ∀ launch ∈ [Launch.mk generation settings false],
      launch.started = false := by
    intro generation settings launch listed
    rw [List.mem_singleton.mp listed]
  cases handled with
  | launched running first allowed => exact .inr ⟨_, rfl, allowed, rfl⟩
  | lost running loss =>
      cases loss with
      | launchFailed => exact .inl ⟨failed _ _, .inl rfl⟩
      | restarted allowed => exact .inr ⟨_, rfl, allowed, rfl⟩
      | restartFailed => exact .inl ⟨failed _ _, .inl rfl⟩
      | exited => exact .inl ⟨none, .inl rfl⟩
      | stopped => exact .inl ⟨none, .inl rfl⟩
  | _ => exact .inl ⟨none, .inr rfl⟩

theorem Pumps.channel_cases {verdict : Verdict} {desk after : Desk} {handed : List Handover}
    {lost : List Resolution} (pumped : Pumps verdict desk after handed lost) :
    after.channel = none ∨ after.channel = desk.channel := by
  cases pumped with
  | failed => exact .inl rfl
  | _ => exact .inr rfl

/-- A submission is always heard. -/
theorem Handles.submit_eq {verdict : Verdict} {desk after : Desk} {request : Request}
    {waiter : Option Waiter} {begun : List Launch} {told : List Resolution}
    (handled : Handles verdict desk (.submit request waiter) after begun told) :
    after = { desk with jobs := (desk.jobs.submit request waiter).jobs } ∧
      told = (desk.jobs.submit request waiter).resolved := by
  cases handled with
  | ignored ignores =>
      rcases ignores with ⟨_, other⟩ | impossible
      · exact absurd rfl (other request waiter)
      · exact impossible.elim
  | lost running loss => cases loss
  | submitted => exact ⟨rfl, rfl⟩

theorem Handles.nextId_le {verdict : Verdict} {desk after : Desk} {event : Event}
    {begun : List Launch} {told : List Resolution}
    (handled : Handles verdict desk event after begun told) :
    desk.jobs.nextId ≤ after.jobs.nextId := by
  cases handled with
  | submitted request waiter => exact desk.jobs.nextId_le_submit request waiter
  | lost running loss => cases loss <;> exact Nat.le_refl _
  | _ => exact Nat.le_refl _

/-- What becomes of the queue when an event is handled.  It survives the first
launch, and is dropped only when the compiler is gone or replaced. -/
inductive Requeues (desk after : Desk) (event : Event) : Prop
  | kept (queue : after.jobs.queue = desk.jobs.queue)
      (nextId : after.jobs.nextId = desk.jobs.nextId)
      (generation : after.generation = desk.generation ∨ desk.generation = 0)
  | dropped (queue : after.jobs.queue = []) (nextId : after.jobs.nextId = desk.jobs.nextId)
      (gone : after.jobs.phase = .exited ∨ ∃ settings, event = .restart settings)
  | replaced {ticket old : Ticket} {uri : Uri} {front back : List Ticket}
      (submitted : event = .submit ticket.job.request ticket.waiter)
      (present : desk.jobs.phase ≠ .exited) (id : ticket.job.id = desk.jobs.nextId)
      (key : ticket.coalesceKey = some uri) (oldKey : old.coalesceKey = some uri)
      (split : desk.jobs.queue = front ++ old :: back)
      (found : JobQueue.replace uri ticket desk.jobs.queue = some (front ++ ticket :: back, old))
      (queue : after.jobs.queue = front ++ ticket :: back)
      (nextId : after.jobs.nextId = desk.jobs.nextId + 1)
      (generation : after.generation = desk.generation)
  | appended {ticket : Ticket} (submitted : event = .submit ticket.job.request ticket.waiter)
      (present : desk.jobs.phase ≠ .exited) (id : ticket.job.id = desk.jobs.nextId)
      (queue : after.jobs.queue = desk.jobs.queue ++ [ticket])
      (nextId : after.jobs.nextId = desk.jobs.nextId + 1)
      (generation : after.generation = desk.generation)

theorem Handles.requeues {verdict : Verdict} {desk after : Desk} {event : Event}
    {begun : List Launch} {told : List Resolution}
    (handled : Handles verdict desk event after begun told) : Requeues desk after event := by
  cases handled with
  | launched running first started => exact .kept rfl rfl (Or.inr first)
  | lost running loss =>
      cases loss with
      | restarted => exact .dropped rfl rfl (Or.inr ⟨_, rfl⟩)
      | _ => exact .dropped rfl rfl (Or.inl rfl)
  | submitted request waiter =>
      have submits := desk.jobs.submit_cases request waiter
      generalize desk.jobs.submit request waiter = submission at submits
      cases submits with
      | refused => exact .kept rfl rfl (Or.inl rfl)
      | replaced present uri front old back key split oldKey found =>
          exact @Requeues.replaced desk _ _ (desk.jobs.ticket request waiter) old uri front back rfl
            present rfl key oldKey split found rfl rfl rfl
      | appended present alone =>
          exact @Requeues.appended desk _ _ (desk.jobs.ticket request waiter) rfl present rfl rfl
            rfl rfl
  | _ => exact .kept rfl rfl (Or.inl rfl)

/-- Only a restart brings a compiler back. -/
theorem Handles.exited_or_restart {verdict : Verdict} {desk after : Desk} {event : Event}
    {begun : List Launch} {told : List Resolution}
    (handled : Handles verdict desk event after begun told) (valid : desk.Valid)
    (gone : desk.jobs.phase = .exited) :
    after.jobs.phase = .exited ∨ ∃ settings, event = .restart settings := by
  cases handled with
  | ignored => exact Or.inl gone
  | launched => exact Or.inl gone
  | lost running loss =>
      cases loss with
      | restarted => exact Or.inr ⟨_, rfl⟩
      | _ => exact Or.inl rfl
  | submitted request waiter =>
      exact Or.inl ((desk.jobs.submit_frame request waiter).1.trans gone)
  | readied running waiting =>
      rw [gone] at waiting
      cases waiting
  | concluded running flying settles =>
      rw [valid.jobs.inFlight_of_exited gone] at flying
      cases flying

/-- Only another generation brings a compiler back. -/
theorem Handles.exited_of_exited {verdict : Verdict} {desk after : Desk} {event : Event}
    {begun : List Launch} {told : List Resolution}
    (handled : Handles verdict desk event after begun told) (valid : desk.Valid)
    (gone : desk.jobs.phase = .exited) (same : after.generation = desk.generation) :
    after.jobs.phase = .exited := by
  cases handled with
  | ignored => exact gone
  | launched => exact absurd same (Nat.succ_ne_self _)
  | lost running loss => exact loss.exited_of_same same
  | submitted request waiter => exact (desk.jobs.submit_frame request waiter).1.trans gone
  | readied running waiting =>
      rw [gone] at waiting
      cases waiting
  | concluded running flying settles =>
      rw [valid.jobs.inFlight_of_exited gone] at flying
      cases flying

/-- The end of the current compiler is never missed. -/
theorem Handles.exited_of_end {verdict : Verdict} {desk after : Desk} {begun : List Launch}
    {told : List Resolution}
    (handled : Handles verdict desk (.compiler desk.generation .exited) after begun told)
    (valid : desk.Valid) : after.jobs.phase = .exited := by
  generalize ends : Event.compiler desk.generation .exited = event at handled
  cases handled with
  | ignored ignores =>
      subst ends
      rcases ignores with ⟨ended, _⟩ | other | ⟨impossible, _⟩
      · exact valid.ended ended
      · exact absurd rfl other
      · exact absurd rfl impossible
  | lost running loss =>
      cases loss with
      | exited => rfl
      | _ => cases ends
  | concluded running flying settles =>
      cases ends
      cases settles
  | _ => cases ends

/-- A launch that fails leaves no compiler. -/
theorem Handles.exited_of_failed {verdict : Verdict} {desk after : Desk} {event : Event}
    {begun : List Launch} {told : List Resolution}
    (handled : Handles verdict desk event after begun told) {launch : Launch}
    (member : launch ∈ begun) (failed : launch.started = false) :
    after.jobs.phase = .exited := by
  cases handled with
  | launched =>
      rw [List.mem_singleton.mp member] at failed
      cases failed
  | lost running loss =>
      cases loss with
      | restarted =>
          rw [List.mem_singleton.mp member] at failed
          cases failed
      | _ => rfl
  | _ => cases member

theorem Pumps.refused_of_verdict {verdict : Verdict} {desk after : Desk} {handed : List Handover}
    {lost : List Resolution} (pumped : Pumps verdict desk after handed lost)
    (refuses : ∀ job, verdict.dispatch job ≠ none) {handover : Handover}
    (listed : handover ∈ handed) : handover.accepted = false := by
  cases pumped with
  | idle => cases listed
  | taken _ _ _ _ accepts => exact absurd accepts (refuses _)
  | failed =>
      rcases List.mem_map.mp listed with ⟨_, _, same⟩
      rw [← same]

/-- A job that is not taken leaves no compiler. -/
theorem Pumps.exited_of_refused {verdict : Verdict} {desk after : Desk} {handed : List Handover}
    {lost : List Resolution} (pumped : Pumps verdict desk after handed lost)
    {handover : Handover} (member : handover ∈ handed) (refused : handover.accepted = false) :
    after.jobs.phase = .exited := by
  cases pumped with
  | idle => cases member
  | taken =>
      rw [List.mem_singleton.mp member] at refused
      cases refused
  | failed => rfl

theorem Pumps.exited_of_exited {verdict : Verdict} {desk after : Desk} {handed : List Handover}
    {lost : List Resolution} (pumped : Pumps verdict desk after handed lost)
    (gone : desk.jobs.phase = .exited) : after.jobs.phase = .exited := by
  cases pumped with
  | idle => exact gone
  | taken ready =>
      rw [gone] at ready
      cases ready
  | failed => rfl

/-- How a ticket comes to be outstanding when an event was handled: it stayed,
or its request was just accepted.  The first launch is a case of its own because
the generation changes and no job is lost. -/
inductive Remains (desk after : Desk) (event : Event) (begun : List Launch) (ticket : Ticket) :
    Prop
  | stayed (listed : ticket ∈ desk.jobs.outstanding)
      (other : ∀ settings, event ≠ .restart settings)
      (generation : after.generation = desk.generation)
  | launched {settings : Settings} (listed : ticket ∈ desk.jobs.outstanding)
      (first : desk.generation = 0) (said : event = .launch settings)
      (begins : (⟨1, settings.compiler, true⟩ : Launch) ∈ begun) (generation : after.generation = 1)
  | arrived (said : event = .submit ticket.job.request ticket.waiter)
      (present : desk.jobs.phase ≠ .exited) (id : ticket.job.id = desk.jobs.nextId)
      (generation : after.generation = desk.generation)

/-- Only an accepted request adds an outstanding ticket, and no ticket survives
a restart. -/
theorem Handles.remains {verdict : Verdict} {desk after : Desk} {event : Event}
    {begun : List Launch} {told : List Resolution}
    (handled : Handles verdict desk event after begun told) (valid : desk.Valid) {ticket : Ticket}
    (listed : ticket ∈ after.jobs.outstanding) : Remains desk after event begun ticket := by
  cases handled with
  | ignored ignores =>
      refine .stayed listed ?_ rfl
      intro settings restarted
      subst restarted
      rcases ignores with ⟨ended, _⟩ | impossible
      · rw [valid.jobs.outstanding_of_exited (valid.ended ended)] at listed
        cases listed
      · exact impossible
  | @launched settings running first started =>
      have one : desk.generation + 1 = 1 := congrArg Nat.succ first
      refine .launched listed first rfl ?_ one
      rw [one]
      exact List.mem_singleton_self _
  | lost running loss =>
      rcases loss.abandons with ⟨phase, _, abandoned⟩
      rw [abandoned] at listed
      cases listed
  | submitted request waiter =>
      have other : ∀ settings, Event.submit request waiter ≠ .restart settings :=
        fun _ => (nomatch ·)
      rcases desk.jobs.submit_outstanding request waiter listed with before | ⟨present, same⟩
      · exact .stayed before other rfl
      · subst same
        exact .arrived rfl present rfl rfl
  | readied => exact .stayed listed (fun _ => (nomatch ·)) rfl
  | concluded =>
      exact .stayed (JobQueue.mem_outstanding.mpr (Or.inr listed)) (fun _ => (nomatch ·)) rfl

/-- What becomes of the ticket in flight when an event is handled.  If it is
lost, the compiler that had it is lost as well: the generation has changed, or
the queue has no compiler. -/
inductive Flies (desk after : Desk) (event : Event) (ticket : Ticket) : Prop
  /-- The compiler did not speak, or not to the job. -/
  | carried (flying : after.jobs.inFlight = some ticket)
      (generation : after.generation = desk.generation)
      (silent : ∀ said, event = .compiler desk.generation said →
        said.outcomeFor? ticket.job.id = none)
  | concluded {said : CompilerEvent} {outcome : Outcome} (landed : after.jobs.inFlight = none)
      (spoke : event = .compiler desk.generation said)
      (settles : said.outcomeFor? ticket.job.id = some outcome)
  | lost (landed : after.jobs.inFlight = none) (later : desk.generation ≤ after.generation)
      (gone : after.generation = desk.generation → after.jobs.phase = .exited)

theorem Handles.flies {verdict : Verdict} {desk after : Desk} {event : Event}
    {begun : List Launch} {told : List Resolution}
    (handled : Handles verdict desk event after begun told) (valid : desk.Valid) {ticket : Ticket}
    (flying : desk.jobs.inFlight = some ticket) : Flies desk after event ticket := by
  have later : desk.generation ≤ after.generation := by
    have grows := handled.generation_eq.1
    omega
  cases handled with
  | ignored ignores =>
      refine .carried flying rfl fun said spoke => ?_
      subst spoke
      rcases ignores with ⟨ended, _⟩ | other | ⟨_, _, silent⟩
      · rw [valid.jobs.inFlight_of_exited (valid.ended ended)] at flying
        cases flying
      · exact absurd rfl other
      · exact silent ticket flying
  | launched running first started =>
      rw [valid.inFlight_of_first first] at flying
      cases flying
  | lost running loss =>
      refine .lost ?_ later loss.exited_of_same
      rcases loss.abandons with ⟨phase, _, abandoned⟩
      rw [abandoned]
      rfl
  | submitted request waiter =>
      refine .carried ?_ rfl fun said spoke => (nomatch spoke)
      exact (desk.jobs.submit_frame request waiter).2.trans flying
  | readied running waiting =>
      refine .carried flying rfl fun said spoke => ?_
      cases spoke
      rfl
  | concluded running found settles =>
      rw [flying] at found
      cases found
      exact .concluded rfl rfl settles

/-- No event puts a ticket in flight. -/
theorem Handles.flying_before {verdict : Verdict} {desk after : Desk} {event : Event}
    {begun : List Launch} {told : List Resolution}
    (handled : Handles verdict desk event after begun told) {ticket : Ticket}
    (flying : after.jobs.inFlight = some ticket) : desk.jobs.inFlight = some ticket := by
  cases handled with
  | lost running loss =>
      rcases loss.abandons with ⟨phase, _, abandoned⟩
      rw [abandoned] at flying
      cases flying
  | submitted request waiter =>
      exact (desk.jobs.submit_frame request waiter).2.symm.trans flying
  | concluded => cases flying
  | _ => exact flying

theorem Pumps.outstanding_subset {verdict : Verdict} {desk after : Desk}
    {handed : List Handover} {lost : List Resolution}
    (pumped : Pumps verdict desk after handed lost) {ticket : Ticket}
    (listed : ticket ∈ after.jobs.outstanding) : ticket ∈ desk.jobs.outstanding := by
  cases pumped with
  | idle => exact listed
  | taken ready free split held accepts =>
      rw [JobQueue.outstanding, free, split]
      exact listed
  | failed => cases listed

/-- A ticket is in flight because it was so before, or because it was taken now. -/
theorem Pumps.flying_cases {verdict : Verdict} {desk after : Desk} {handed : List Handover}
    {lost : List Resolution} (pumped : Pumps verdict desk after handed lost) {ticket : Ticket}
    (flying : after.jobs.inFlight = some ticket) :
    (desk.jobs.inFlight = some ticket ∧ handed = []) ∨
      ∃ generation, handed = [⟨generation, ticket.job, true⟩] := by
  cases pumped with
  | idle => exact Or.inl ⟨flying, rfl⟩
  | taken ready free split held accepts =>
      cases flying
      exact Or.inr ⟨_, rfl⟩
  | failed => cases flying

theorem Pumps.nextId_eq {verdict : Verdict} {desk after : Desk} {handed : List Handover}
    {lost : List Resolution} (pumped : Pumps verdict desk after handed lost) :
    after.jobs.nextId = desk.jobs.nextId := by
  cases pumped <;> rfl

end Desk
end CompilerRelay
