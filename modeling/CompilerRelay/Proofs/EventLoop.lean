import CompilerRelay.Rehearsal
import CompilerRelay.Proofs.JobQueue.Coalesce
import CompilerRelay.Proofs.Supervisor.Inert

/-!
# A batch of requests

Requests that are posted together are handled one after the other, and only
then the answers, which are posted behind them.  The first request is handed to
the compiler at once.  The others gather in the queue while it is busy, and from
then on each answer brings about the next handover.  What reaches the compiler
is therefore the first request and what `coalesce` leaves of the others.

The compiler is part of the world, which is taken to be obliging: it takes every
job and posts one answer to it.  Nothing is assumed of what it answers, or of a
world in which a launch is attempted.  A turn of the loop is described once, by
what becomes of the jobs (`Works.turn`).  The loop is busy while a batch is
served (`Busy`), and both halves of the service are inductions on what is still
to be done: on the requests that were not handled, and then on the queue.
-/

namespace CompilerRelay

open Effect

variable {σ : Type} {world : World σ} {willing : σ → Prop}

/-! ## Obliging worlds -/

/-- The event is an answer to the job that was handed over. -/
def Event.Answers (handover : Handover) (event : Event) : Prop :=
  ∃ outcome, event = .compiler handover.generation (.response handover.job.id outcome)

/-- As long as it is willing, the world lets a compiler take every job and post
one answer to it, and posts nothing else.  It remains willing whatever is done. -/
structure World.Obliges (world : World σ) (willing : σ → Prop) : Prop where
  stays : ∀ state effect, willing state → willing (world.react state effect).1
  accepts : ∀ state job, willing state → (world.verdict state).dispatch job = none
  answers : ∀ state generation job, willing state → ∃ event,
    Event.Answers ⟨generation, job, true⟩ event ∧
      (world.react state (.dispatched generation job true)).2 = [event]
  silent : ∀ state effect, willing state → effect.launch? = none → effect.handover? = none →
    (world.react state effect).2 = []

/-- An obliging world answers the jobs that were taken, in order. -/
theorem World.Obliges.reactAll (obliges : world.Obliges willing) {state : σ}
    (ready : willing state) {effects : List Effect} (calm : launches effects = [])
    (taken : ∀ handover ∈ handovers effects, handover.accepted = true) :
    willing (world.reactAll state effects).1 ∧
      List.Forall₂ Event.Answers (handovers effects) (world.reactAll state effects).2 := by
  induction effects generalizing state with
  | nil => exact ⟨ready, .nil⟩
  | cons effect rest inductionHypothesis =>
      have each := List.filterMap_eq_nil_iff.mp calm
      have calmRest : launches rest = [] :=
        List.filterMap_eq_nil_iff.mpr fun other member => each other (List.mem_cons_of_mem _ member)
      have next := obliges.stays state effect ready
      cases read : effect.handover? with
      | none =>
          have said := obliges.silent state effect ready (each effect List.mem_cons_self) read
          have skipped : handovers (effect :: rest) = handovers rest :=
            List.filterMap_cons_none read
          rw [skipped] at taken ⊢
          rw [World.reactAll, said]
          exact inductionHypothesis next calmRest taken
      | some handover =>
          have listed : handovers (effect :: rest) = handover :: handovers rest :=
            List.filterMap_cons_some read
          rw [listed] at taken ⊢
          have accepted := taken handover List.mem_cons_self
          have others := inductionHypothesis next calmRest
            fun other member => taken other (List.mem_cons_of_mem _ member)
          have same : effect = .dispatched handover.generation handover.job true := by
            rw [← accepted]
            cases effect <;> cases read
            rfl
          rcases obliges.answers state handover.generation handover.job ready with
            ⟨event, answer, posted⟩
          rw [← same] at posted
          rw [World.reactAll, posted]
          exact ⟨others.1, .cons answer others.2⟩

/-- The script lets every job be taken and has an answer to it. -/
def Rehearsal.Willing (rehearsal : Rehearsal) : Prop :=
  rehearsal.script.dispatchFailure = none ∧
    ∀ kind, (rehearsal.script.answers.lookup kind).isSome = true

theorem Rehearsal.react_script (rehearsal : Rehearsal) (effect : Effect) :
    (rehearsal.react effect).1.script = rehearsal.script := by
  cases effect with
  | launched _ _ started => cases started <;> rfl
  | dispatched _ _ accepted => cases accepted <;> rfl
  | _ => rfl

theorem Rehearsal.obliges : Rehearsal.world.Obliges Rehearsal.Willing where
  stays := by
    intro rehearsal effect willing
    rw [Willing, show (Rehearsal.world.react rehearsal effect).1.script = rehearsal.script from
      rehearsal.react_script effect]
    exact willing
  accepts := fun _ _ willing => willing.1
  answers := by
    intro rehearsal generation job willing
    rcases Option.isSome_iff_exists.mp (willing.2 job.kind) with ⟨outcome, answer⟩
    refine ⟨_, ⟨outcome, rfl⟩, ?_⟩
    simp only [Rehearsal.world, Rehearsal.react, answer, Option.map_some, Option.toList_some]
  silent := by
    intro rehearsal effect _ calm unread
    cases effect with
    | launched => cases calm
    | dispatched => cases unread
    | _ => rfl

/-! ## One turn -/

namespace Desk

/-- Whichever way the event is handled, no more than the jobs change, and this
is what becomes of them. -/
def Yields (verdict : Verdict) (desk : Desk) (event : Event) (jobs : JobQueue) : Prop :=
  ∀ after begun told, Handles verdict desk event after begun told →
    after = { desk with jobs } ∧ begun = []

theorem yields_submit (verdict : Verdict) (desk : Desk) (request : Request)
    (waiter : Option Waiter) :
    Yields verdict desk (.submit request waiter) (desk.jobs.submit request waiter).jobs := by
  intro after begun told handled
  refine ⟨handled.submit_eq.1, ?_⟩
  cases handled with
  | lost running loss => cases loss
  | _ => rfl

/-- An answer to the job in flight frees its place. -/
theorem yields_answer (verdict : Verdict) {desk : Desk} (running : desk.halted = false)
    {ticket : Ticket} (flying : desk.jobs.inFlight = some ticket) (outcome : Outcome) :
    Yields verdict desk (.compiler desk.generation (.response ticket.job.id outcome))
      desk.jobs.free := by
  intro after begun told handled
  cases handled with
  | ignored ignores =>
      rcases ignores with ⟨ended, _⟩ | other | ⟨_, _, unanswered⟩
      · rw [running] at ended
        cases ended
      · exact absurd rfl other
      · have silent := unanswered ticket flying
        rw [CompilerEvent.outcomeFor?, if_pos rfl] at silent
        cases silent
  | lost _ loss => cases loss
  | concluded => exact ⟨rfl, rfl⟩

/-- A compiler that takes every job is handed the next one. -/
theorem Pumps.of_accepting {verdict : Verdict} {desk after : Desk} {given : List Handover}
    {lost : List Resolution} (pumped : Pumps verdict desk after given lost) {generation : Nat}
    (held : desk.channel = some generation) (accepts : ∀ job, verdict.dispatch job = none) :
    after = { desk with jobs := (desk.jobs.perform .drive).1 } ∧
      given = (desk.jobs.perform .drive).2.toList.map (⟨generation, ·, true⟩) := by
  cases pumped with
  | idle nothing =>
      rw [JobQueue.perform_drive_of_rest nothing]
      exact ⟨rfl, rfl⟩
  | taken ready free split held' =>
      rw [JobQueue.perform_drive_of_ready ready free split,
        Option.some.inj (held.symm.trans held')]
      exact ⟨rfl, rfl⟩
  | failed ready free split refuses =>
      rcases refuses with missing | ⟨cause, refused⟩
      · rw [held] at missing
        cases missing
      · rw [accepts] at refused
        cases refused

end Desk

namespace EventLoop

/-- The supervisor holds the compiler of a generation, and the world is
willing.  Nothing is said of the queue, so this holds before, during and after a
batch. -/
structure Works (willing : σ → Prop) (generation : Nat) (loop : EventLoop σ) : Prop where
  valid : loop.supervisor.desk.Valid
  held : loop.supervisor.channel = some generation
  running : loop.supervisor.halted = false
  willing : willing loop.outside

/-- After an event that changes only the jobs, the next job is handed over if
there is one, and its answer is the last of the events that wait. -/
theorem Works.turn (obliges : world.Obliges willing) {generation : Nat} {loop : EventLoop σ}
    (works : Works willing generation loop) {event : Event} {rest : List Event}
    {jobs : JobQueue} (waits : loop.pending = event :: rest)
    (yields : loop.supervisor.desk.Yields (world.verdict loop.outside) event jobs) :
    ∃ next effects posts, loop.turn world = some (next, effects) ∧
      Works willing generation next ∧ next.pending = rest ++ posts ∧
      next.supervisor.jobs = (jobs.perform .drive).1 ∧
      handovers effects = (jobs.perform .drive).2.toList.map (⟨generation, ·, true⟩) ∧
      List.Forall₂ Event.Answers (handovers effects) posts := by
  let verdict := world.verdict loop.outside
  rcases loop.supervisor.step_handles_pumps works.valid verdict event with
    ⟨told, lost, handled, pumped, _⟩
  rcases yields _ _ _ handled with ⟨between, calm⟩
  have held : (loop.supervisor.middle verdict event).desk.channel = some generation := by
    rw [between]
    exact works.held
  have accepts := fun job => obliges.accepts loop.outside job works.willing
  rcases pumped.of_accepting held accepts with ⟨after, given⟩
  rw [between] at after given
  have taken : ∀ handover ∈ handovers (loop.supervisor.step verdict event).2,
      handover.accepted = true := by
    rw [given]
    intro handover member
    rcases List.mem_map.mp member with ⟨job, _, rfl⟩
    rfl
  have reacted := obliges.reactAll works.willing calm taken
  have turned : loop.turn world = some (⟨(loop.supervisor.step verdict event).1,
      rest ++ (world.reactAll loop.outside (loop.supervisor.step verdict event).2).2,
      (world.reactAll loop.outside (loop.supervisor.step verdict event).2).1⟩,
      (loop.supervisor.step verdict event).2) := by
    simp only [EventLoop.turn, waits]
    rfl
  refine ⟨_, _, _, turned, ⟨(works.valid.handles handled).pumps pumped, ?_, ?_, reacted.1⟩, rfl,
    congrArg Desk.jobs after, given, reacted.2⟩
  · exact (congrArg Desk.channel after).trans works.held
  · exact (congrArg Desk.halted after).trans works.running

theorem turns_succ {loop next : EventLoop σ} {effects : List Effect}
    (turned : loop.turn world = some (next, effects)) (count : Nat) :
    loop.turns world (count + 1) =
      ((next.turns world count).1, effects ++ (next.turns world count).2) := by
  simp only [turns, turned]

/-! ## While a batch is served -/

def submissions (batch : List (Request × Option Waiter)) : List Event :=
  batch.map fun entry => .submit entry.1 entry.2

/-- A job is in flight, and its answer waits behind requests.  The loop is in
such a state from the first turn of a batch to the last one: the requests are
queued, and then each answer brings the next job. -/
structure Busy (willing : σ → Prop) (generation : Nat) (loop : EventLoop σ) (ticket : Ticket)
    (later : List (Request × Option Waiter)) : Prop where
  works : Works willing generation loop
  flying : loop.supervisor.jobs.inFlight = some ticket
  pending : ∃ answer, Event.Answers ⟨generation, ticket.job, true⟩ answer ∧
    loop.pending = submissions later ++ [answer]

/-- Nothing is left to do: no event waits, no job waits, and the compiler is
ready for the next one. -/
structure Settled (loop : EventLoop σ) : Prop where
  pending : loop.pending = []
  phase : loop.supervisor.jobs.phase = .ready
  queue : loop.supervisor.jobs.queue = []
  inFlight : loop.supervisor.jobs.inFlight = none

namespace Busy

variable {generation : Nat} {loop : EventLoop σ} {ticket : Ticket}

theorem phase {later : List (Request × Option Waiter)}
    (busy : Busy willing generation loop ticket later) : loop.supervisor.jobs.phase = .busy := by
  refine busy.works.valid.jobs.busy.mpr ?_
  rw [show loop.supervisor.desk.jobs.inFlight = some ticket from busy.flying]
  rfl

/-- A request that comes meanwhile is queued. -/
theorem submit (obliges : world.Obliges willing) {request : Request} {waiter : Option Waiter}
    {later : List (Request × Option Waiter)}
    (busy : Busy willing generation loop ticket ((request, waiter) :: later)) :
    ∃ next effects, loop.turn world = some (next, effects) ∧ handovers effects = [] ∧
      Busy willing generation next ticket later ∧
      next.supervisor.jobs = (loop.supervisor.jobs.submit request waiter).jobs := by
  rcases busy.pending with ⟨answer, answers, waits⟩
  have frame := loop.supervisor.jobs.submit_frame request waiter
  rcases busy.works.turn obliges waits (Desk.yields_submit _ _ request waiter) with
    ⟨next, effects, posts, turned, works, pending, jobs, given, posted⟩
  have nothing : (loop.supervisor.jobs.submit request waiter).jobs.perform .drive =
      ((loop.supervisor.jobs.submit request waiter).jobs, none) := by
    apply JobQueue.perform_drive_of_rest
    intro waiting
    rw [frame.1, busy.phase] at waiting
    cases waiting.1
  rw [show loop.supervisor.desk.jobs = loop.supervisor.jobs from rfl, nothing] at jobs given
  rw [given] at posted
  cases posted
  refine ⟨next, effects, turned, given, ⟨works, ?_, answer, answers, ?_⟩, jobs⟩
  · rw [jobs, frame.2]
    exact busy.flying
  · exact pending.trans (List.append_nil _)

/-- When the answer is heard, its job makes room for the next one. -/
theorem answer (obliges : world.Obliges willing) (busy : Busy willing generation loop ticket []) :
    ∃ next effects, loop.turn world = some (next, effects) ∧ Works willing generation next ∧
      next.supervisor.jobs = (loop.supervisor.jobs.free.perform .drive).1 ∧
      handovers effects =
        (loop.supervisor.jobs.free.perform .drive).2.toList.map (⟨generation, ·, true⟩) ∧
      List.Forall₂ Event.Answers (handovers effects) next.pending := by
  rcases busy.pending with ⟨answer, ⟨outcome, same⟩, waits⟩
  have current : generation = loop.supervisor.desk.generation :=
    (busy.works.valid.held generation busy.works.held).1
  have yields : loop.supervisor.desk.Yields (world.verdict loop.outside) answer
      loop.supervisor.jobs.free := by
    rw [same, current]
    exact Desk.yields_answer _ busy.works.running busy.flying outcome
  rcases busy.works.turn obliges waits yields with
    ⟨next, effects, posts, turned, works, pending, jobs, given, posted⟩
  exact ⟨next, effects, turned, works, jobs, given, pending ▸ posted⟩

theorem free_phase (busy : Busy willing generation loop ticket []) :
    loop.supervisor.jobs.free.phase = .ready :=
  if_pos busy.phase

/-- The last answer leaves nothing to do. -/
theorem answer_last (obliges : world.Obliges willing)
    (busy : Busy willing generation loop ticket []) (empty : loop.supervisor.jobs.queue = []) :
    ∃ next effects, loop.turn world = some (next, effects) ∧ handovers effects = [] ∧
      Settled next := by
  rcases busy.answer obliges with ⟨next, effects, turned, works, jobs, given, posted⟩
  have nobody : loop.supervisor.jobs.free.perform .drive = (loop.supervisor.jobs.free, none) :=
    JobQueue.perform_drive_of_rest fun waiting => waiting.2.2 empty
  rw [nobody] at jobs given
  rw [given] at posted
  have nothing : next.pending = [] := List.forall₂_nil_left_iff.mp posted
  refine ⟨next, effects, turned, given, nothing, ?_, ?_, ?_⟩
  · rw [jobs]
    exact busy.free_phase
  · rw [jobs]
    exact empty
  · rw [jobs]
    rfl

/-- Any other answer brings about the next handover. -/
theorem answer_next (obliges : world.Obliges willing) {first : Ticket} {rest : List Ticket}
    (busy : Busy willing generation loop ticket [])
    (queue : loop.supervisor.jobs.queue = first :: rest) :
    ∃ next effects, loop.turn world = some (next, effects) ∧
      handovers effects = [⟨generation, first.job, true⟩] ∧
      Busy willing generation next first [] ∧ next.supervisor.jobs.queue = rest := by
  rcases busy.answer obliges with ⟨next, effects, turned, works, jobs, given, posted⟩
  rw [JobQueue.perform_drive_of_ready busy.free_phase rfl queue] at jobs given
  rw [given] at posted
  rcases List.forall₂_cons_left_iff.mp posted with ⟨answer, others, answers, nothing, pending⟩
  rw [List.forall₂_nil_left_iff.mp nothing] at pending
  exact ⟨next, effects, turned, given, ⟨works, by rw [jobs], answer, answers, pending⟩,
    by rw [jobs]⟩

/-- Once all requests were handled, the queue is handed over in order. -/
theorem serve_queue (obliges : world.Obliges willing) {tickets : List Ticket}
    (busy : Busy willing generation loop ticket [])
    (queue : loop.supervisor.jobs.queue = tickets) :
    Settled (loop.turns world (tickets.length + 1)).1 ∧
      handovers (loop.turns world (tickets.length + 1)).2 =
        (tickets.map (·.job)).map (⟨generation, ·, true⟩) := by
  induction tickets generalizing loop ticket with
  | nil =>
      rcases busy.answer_last obliges queue with ⟨next, effects, turned, given, settled⟩
      rw [turns_succ turned, handovers_append, given]
      exact ⟨settled, rfl⟩
  | cons first rest inductionHypothesis =>
      rcases busy.answer_next obliges queue with
        ⟨next, effects, turned, given, further, remaining⟩
      have served := inductionHypothesis further remaining
      rw [turns_succ turned, handovers_append, given]
      exact ⟨served.1, congrArg _ served.2⟩

/-- The requests that are still to come join those that wait. -/
theorem serve_batch (obliges : world.Obliges willing) {later : List (Request × Option Waiter)}
    (busy : Busy willing generation loop ticket later) {past jobs : List Job}
    (queue : loop.supervisor.jobs.queue.map (·.job) = coalesce [] past)
    (left : coalesce [] (past ++ numbered loop.supervisor.jobs.nextId (later.map Prod.fst)) =
      jobs) :
    Settled (loop.turns world (jobs.length + 1 + later.length)).1 ∧
      handovers (loop.turns world (jobs.length + 1 + later.length)).2 =
        jobs.map (⟨generation, ·, true⟩) := by
  induction later generalizing loop past with
  | nil =>
      have same : loop.supervisor.jobs.queue.map (·.job) = jobs := by
        rw [queue, ← left]
        exact congrArg (coalesce []) (List.append_nil past).symm
      have served := busy.serve_queue obliges rfl
      rw [same, ← List.length_map (·.job), same] at served
      exact served
  | cons entry rest inductionHypothesis =>
      -- what waits is at every turn what is left of the requests handled so far
      rcases entry with ⟨request, waiter⟩
      have present : loop.supervisor.jobs.phase ≠ .exited := by
        rw [busy.phase]
        exact (nomatch ·)
      rcases busy.submit obliges with ⟨next, effects, turned, given, further, submitted⟩
      have joined := JobQueue.queue_submit present queue request waiter
      rw [← submitted] at joined
      have nextId : next.supervisor.jobs.nextId = loop.supervisor.jobs.nextId + 1 := by
        rw [submitted]
        exact loop.supervisor.jobs.submit_nextId request waiter present
      have served := inductionHypothesis further joined (by
        rw [nextId, List.append_assoc, List.singleton_append, ← numbered_cons]
        exact left)
      rw [List.length_cons, ← Nat.add_assoc, turns_succ turned, handovers_append, given]
      exact served

end Busy

/-- A request that finds nothing to do is handed over at once. -/
theorem Works.begin (obliges : world.Obliges willing) {generation : Nat} {loop : EventLoop σ}
    (works : Works willing generation loop) (ready : loop.supervisor.jobs.phase = .ready)
    (free : loop.supervisor.jobs.inFlight = none) (empty : loop.supervisor.jobs.queue = [])
    {request : Request} {waiter : Option Waiter} {later : List (Request × Option Waiter)}
    (waits : loop.pending = submissions ((request, waiter) :: later)) :
    ∃ next effects, loop.turn world = some (next, effects) ∧
      handovers effects = [⟨generation, ⟨loop.supervisor.jobs.nextId, request⟩, true⟩] ∧
      Busy willing generation next (loop.supervisor.jobs.ticket request waiter) later ∧
      next.supervisor.jobs.queue = [] ∧
      next.supervisor.jobs.nextId = loop.supervisor.jobs.nextId + 1 := by
  have present : loop.supervisor.jobs.phase ≠ .exited := by
    rw [ready]
    exact (nomatch ·)
  rcases works.turn obliges waits (Desk.yields_submit _ _ request waiter) with
    ⟨next, effects, posts, turned, works', pending, jobs, given, posted⟩
  have submitted := JobQueue.submit_of_empty present empty request waiter
  have driven : (loop.supervisor.jobs.submit request waiter).jobs.perform .drive =
      ({ loop.supervisor.jobs with
        phase := .busy
        queue := []
        inFlight := some (loop.supervisor.jobs.ticket request waiter)
        nextId := loop.supervisor.jobs.nextId + 1 },
        some (loop.supervisor.jobs.ticket request waiter).job) := by
    rw [submitted]
    exact JobQueue.perform_drive_of_ready ready free rfl
  rw [show loop.supervisor.desk.jobs = loop.supervisor.jobs from rfl, driven] at jobs given
  rw [given] at posted
  rcases List.forall₂_cons_left_iff.mp posted with ⟨answer, others, answers, nothing, same⟩
  rw [same, List.forall₂_nil_left_iff.mp nothing] at pending
  exact ⟨next, effects, turned, given, ⟨works', by rw [jobs], answer, answers, pending⟩,
    by rw [jobs], by rw [jobs]⟩

/-- Requests that are posted together, to a supervisor that is ready and a
compiler that takes and answers every job, are all served.  The loop comes to
rest, and the jobs handed over are the one for the first request and what is
left of the others. -/
theorem batch_served (obliges : world.Obliges willing) (history : List (Verdict × Event))
    {outside : σ} (kind : willing outside)
    (ready : (Supervisor.initial.run history).1.jobs.phase = .ready)
    (held : (Supervisor.initial.run history).1.channel.isSome = true)
    (first : Request × Option Waiter) (rest : List (Request × Option Waiter)) :
    let s := (Supervisor.initial.run history).1
    let loop : EventLoop σ := ⟨s, submissions (first :: rest), outside⟩
    let jobs := ⟨s.jobs.nextId, first.1⟩ ::
      coalesce [] (numbered (s.jobs.nextId + 1) (rest.map Prod.fst))
    let ran := loop.turns world (jobs.length + 1 + rest.length)
    Settled ran.1 ∧ handovers ran.2 = jobs.map (⟨s.generation, ·, true⟩) := by
  intro s loop jobs ran
  have valid : s.desk.Valid := Moment.run_desk_valid history
  have free : s.jobs.inFlight = none := by
    have idle : ¬ s.jobs.inFlight.isSome = true := by
      intro flying
      have busy := valid.jobs.busy.mpr flying
      rw [show s.desk.jobs.phase = .ready from ready] at busy
      cases busy
    exact Option.not_isSome_iff_eq_none.mp idle
  have empty : s.jobs.queue = [] := by
    by_contra waiting
    exact Supervisor.run_rests history ⟨ready, free, waiting⟩
  have running : s.halted = false := by
    refine Bool.eq_false_iff.mpr fun ended => ?_
    rw [show s.jobs.phase = .exited from valid.ended ended] at ready
    cases ready
  rcases Option.isSome_iff_exists.mp held with ⟨generation, channel⟩
  have current : generation = s.generation := (valid.held generation channel).1
  subst current
  have works : Works willing s.generation loop := ⟨valid, channel, running, kind⟩
  rcases works.begin obliges ready free empty rfl with
    ⟨next, effects, turned, given, busy, queue, nextId⟩
  have waiting : next.supervisor.jobs.queue.map (·.job) = coalesce [] [] := by
    rw [queue]
    rfl
  have served := busy.serve_batch obliges waiting rfl
  rw [nextId] at served
  have count : jobs.length + 1 + rest.length =
      ((coalesce [] (numbered (s.jobs.nextId + 1) (rest.map Prod.fst))).length + 1
        + rest.length) + 1 := by
    rw [List.length_cons]
    omega
  simp only [ran]
  rw [count, turns_succ turned, handovers_append, given]
  exact ⟨served.1, congrArg (List.cons _) served.2⟩

/-- A compiler that follows a script is handed four of five jobs: a change that
was queued behind another one gives its place to a save. -/
theorem batch_served_rehearsal :
    let willing : Verdict := ⟨fun _ => none, fun _ => none⟩
    let history : List (Verdict × Event) := [(willing, .launch {}), (willing, .compiler 1 .ready)]
    let script : Script := { answers := JobKind.all.map (·, .ok .null) }
    let text (uri : String) (version : Int) : Snapshot := ⟨⟨uri⟩, version, "text"⟩
    let question : Request := .hover ⟨⟨"a"⟩, ⟨0, 0⟩⟩
    let batch : List (Request × Option Waiter) := [(.documentChanged (text "a" 1), none),
      (.documentChanged (text "a" 2), none), (question, some 7),
      (.documentSaved (text "a" 3), none), (.documentChanged (text "b" 1), none)]
    let loop : EventLoop Rehearsal :=
      ⟨(Supervisor.initial.run history).1, submissions batch, ⟨script, [1]⟩⟩
    let ran := loop.turns Rehearsal.world 9
    Settled ran.1 ∧ handovers ran.2 = [⟨1, ⟨1, .documentChanged (text "a" 1)⟩, true⟩,
      ⟨1, ⟨4, .documentSaved (text "a" 3)⟩, true⟩, ⟨1, ⟨3, question⟩, true⟩,
      ⟨1, ⟨5, .documentChanged (text "b" 1)⟩, true⟩] := by
  intro willing history script text question batch loop ran
  have kind : Rehearsal.Willing ⟨script, [1]⟩ := ⟨rfl, fun kind => by cases kind <;> rfl⟩
  have served := batch_served Rehearsal.obliges history kind (by decide +kernel) (by decide +kernel)
    (.documentChanged (text "a" 1), none) batch.tail
  have generation : (Supervisor.initial.run history).1.generation = 1 := by decide +kernel
  have nextId : (Supervisor.initial.run history).1.jobs.nextId = 1 := by decide +kernel
  simp only [generation, nextId] at served
  exact served

end EventLoop
end CompilerRelay
