import CompilerRelay.Proofs.Compiler.Feeding
import CompilerRelay.Proofs.Supervisor.History

/-!
# A write that fails

When a write fails, no event is posted.  The failure is found out when the next
job is offered to the compiler, which does not take it and is given up then.  But
while a job is in flight no job is offered.  So if the write of that very job
failed, it remains in flight until something else ends it: an answer or the end
of the compiler, a restart, or the end of the supervisor (`Feeding.Ends`).

Both are shown of every world that feeds compilers, and of every run in it
(`Feeding.unnoticed`).  What is needed of a run is that the compiler that is held
is the latest one that was started (`Feeding.Tracks`).
-/

namespace CompilerRelay

open Compiler Effect Inputs

/-! ## Runs -/

namespace Feeding

variable {σ : Type} (world : World σ) (inputs : σ → Inputs)

/-- One thing that happens, and the events that are posted by it.  Compilers may
tell anything at any time here, whether it makes sense or not. -/
inductive Step (loop : EventLoop σ) : List Event → EventLoop σ → Prop
  | posted (event : Event) : Step loop [event] (loop.post event).1
  /-- The compiler of a generation tells something. -/
  | told (generation : Nat) (event : CompilerEvent) :
      Step loop [.compiler generation event] (loop.emit generation event).1
  | turned {next : EventLoop σ} {effects : List Effect}
      (turn : loop.turn world = some (next, effects)) :
      Step loop (world.reactAll loop.outside effects).2 next
  /-- Writers go on, and a write may fail. -/
  | worked (outside : σ) (works : Works (inputs loop.outside) (inputs outside)) :
      Step loop [] { loop with outside }

/-- Several things happen one after the other. -/
inductive Runs : EventLoop σ → List Event → EventLoop σ → Prop
  | done (loop : EventLoop σ) : Runs loop [] loop
  | more {loop middle last : EventLoop σ} {posted others : List Event}
      (step : Step world inputs loop posted middle) (rest : Runs middle others last) :
      Runs loop (posted ++ others) last

/-- It comes to this from a beginning where no compiler was started. -/
def Reached (loop : EventLoop σ) : Prop :=
  ∃ outside posted, inputs outside = [] ∧ Runs world inputs (.initial outside) posted loop

variable {world inputs} in
theorem Runs.step {loop middle last : EventLoop σ} {posted more : List Event}
    (runs : Runs world inputs loop posted middle) (step : Step world inputs middle more last) :
    Runs world inputs loop (posted ++ more) last := by
  induction runs with
  | done =>
      have single := Runs.more step (.done last)
      rw [List.append_nil] at single
      exact single
  | more first _ inductionHypothesis =>
      rw [List.append_assoc]
      exact .more first (inductionHypothesis step)

variable {world inputs} in
theorem Reached.step {loop next : EventLoop σ} (reached : Reached world inputs loop)
    {posted : List Event} (step : Step world inputs loop posted next) :
    Reached world inputs next := by
  rcases reached with ⟨outside, before, empty, runs⟩
  exact ⟨outside, _, empty, runs.step step⟩

/-- How the inputs and the supervisor belong together.  Inputs of compilers that
were replaced remain in the list, behind that of the latest one. -/
structure Tracks (inputs : Inputs) (supervisor : Supervisor) : Prop where
  valid : supervisor.desk.Valid
  known : ∀ generation ∈ inputs.generations, generation ≤ supervisor.generation
  distinct : inputs.generations.Nodup
  /-- The compiler that is held is the latest. -/
  held : ∀ generation, supervisor.channel = some generation →
    inputs.generations.head? = some generation

variable {world inputs} {loop next : EventLoop σ}

theorem turn_eq {effects : List Effect} (turn : loop.turn world = some (next, effects)) :
    ∃ event rest, loop.pending = event :: rest ∧
      next.supervisor = (loop.supervisor.step (world.verdict loop.outside) event).1 ∧
      effects = (loop.supervisor.step (world.verdict loop.outside) event).2 ∧
      next.pending = rest ++ (world.reactAll loop.outside effects).2 ∧
      next.outside = (world.reactAll loop.outside effects).1 := by
  unfold EventLoop.turn at turn
  cases waits : loop.pending with
  | nil =>
      rw [waits] at turn
      cases turn
  | cons event rest =>
      rw [waits] at turn
      cases turn
      exact ⟨event, rest, rfl, rfl, rfl, rfl, rfl⟩

theorem post_frame (event : Event) : (loop.post event).1.supervisor = loop.supervisor ∧
    (loop.post event).1.outside = loop.outside ∧
      ∀ other ∈ (loop.post event).1.pending, other ∈ loop.pending ∨ other = event := by
  unfold EventLoop.post
  split
  · exact ⟨rfl, rfl, fun _ => .inl⟩
  · refine ⟨rfl, rfl, fun other listed => ?_⟩
    exact (List.mem_append.mp listed).imp id List.mem_singleton.mp

/-- What a compiler tells is posted like anything else. -/
theorem emit_eq_post (generation : Nat) (event : CompilerEvent) :
    (loop.emit generation event).1 = (loop.post (.compiler generation event)).1 := by
  unfold EventLoop.emit EventLoop.post
  split <;> rfl

/-- How a turn goes on the desk. -/
theorem turn_halves (tracks : Tracks (inputs loop.outside) loop.supervisor)
    {effects : List Effect} (turn : loop.turn world = some (next, effects)) :
    ∃ event rest middle told lost, loop.pending = event :: rest ∧
      Desk.Handles (world.verdict loop.outside) loop.supervisor.desk event middle
        (launches effects) told ∧
      Desk.Pumps (world.verdict loop.outside) middle next.supervisor.desk (handovers effects)
        lost := by
  rcases turn_eq turn with ⟨event, rest, waits, stepped, done, _⟩
  rcases loop.supervisor.step_handles_pumps tracks.valid (world.verdict loop.outside) event with
    ⟨told, lost, handled, pumped, _⟩
  rw [← stepped, ← done] at pumped
  rw [← done] at handled
  exact ⟨event, rest, _, told, lost, waits, handled, pumped⟩

theorem allowed_of_handles {verdict : Verdict} {desk after : Desk} {event : Event}
    {effects : List Effect} {told : List Resolution} {state : σ}
    (same : verdict = world.verdict state)
    (handled : Desk.Handles verdict desk event after (launches effects) told) :
    World.Feeds.Allowed world effects := by
  intro launch listed success
  rcases handled.channel_cases with ⟨failed, _⟩ | ⟨settings, begun, allowed, _⟩
  · exact absurd ((failed launch listed).symm.trans success) (nomatch ·)
  · rw [begun] at listed
    rw [List.mem_singleton.mp listed]
    exact ⟨state, same ▸ allowed⟩

/-- A turn starts no compiler, or it starts the next one. -/
theorem turn_generations (feeds : world.Feeds inputs)
    (tracks : Tracks (inputs loop.outside) loop.supervisor) {effects : List Effect}
    (turn : loop.turn world = some (next, effects)) :
    ((inputs next.outside).generations = (inputs loop.outside).generations ∧
      loop.supervisor.generation ≤ next.supervisor.generation ∧
      ∀ generation, next.supervisor.channel = some generation →
        loop.supervisor.channel = some generation) ∨
    ((inputs next.outside).generations =
        (loop.supervisor.generation + 1) :: (inputs loop.outside).generations ∧
      next.supervisor.generation = loop.supervisor.generation + 1 ∧
      ∀ generation, next.supervisor.channel = some generation →
        loop.supervisor.generation + 1 = generation) := by
  rcases turn_halves tracks turn with ⟨event, rest, middle, told, lost, _, handled, pumped⟩
  rcases turn_eq turn with ⟨_, _, _, _, _, _, outside⟩
  have keys := feeds.generations_reactAll (allowed_of_handles rfl handled) loop.outside
  rw [← outside] at keys
  have grown : next.supervisor.generation =
      loop.supervisor.generation + (launches effects).length :=
    pumped.generation_eq.trans handled.generation_eq.1
  have kept : ∀ generation, next.supervisor.channel = some generation →
      middle.channel = some generation := by
    intro generation held
    rcases pumped.channel_cases with gone | same
    · cases gone.symm.trans held
    · exact same.symm.trans held
  rcases handled.channel_cases with ⟨failed, before⟩ | ⟨settings, begun, _, begins⟩
  · have none : starts effects = [] := by
      have nobody := List.filter_eq_nil_iff.mpr fun launch listed =>
        ne_true_of_eq_false (failed launch listed)
      rw [starts, nobody]
      rfl
    rw [none, List.reverse_nil, List.nil_append] at keys
    refine .inl ⟨keys, grown ▸ Nat.le_add_right _ _, fun generation held => ?_⟩
    rcases before with gone | same
    · cases gone.symm.trans (kept generation held)
    · exact same.symm.trans (kept generation held)
  · have one : starts effects = [loop.supervisor.generation + 1] := by
      rw [starts, begun]
      rfl
    rw [one] at keys
    rw [begun] at grown
    exact .inr ⟨keys, grown, fun generation held =>
      Option.some.inj (begins.symm.trans (kept generation held))⟩

theorem Tracks.turn (feeds : world.Feeds inputs)
    (tracks : Tracks (inputs loop.outside) loop.supervisor) {effects : List Effect}
    (turn : loop.turn world = some (next, effects)) :
    Tracks (inputs next.outside) next.supervisor := by
  have valid : next.supervisor.desk.Valid := by
    rcases turn_halves tracks turn with ⟨_, _, _, _, _, _, handled, pumped⟩
    exact (tracks.valid.handles handled).pumps pumped
  rcases turn_generations feeds tracks turn with ⟨keys, later, kept⟩ | ⟨keys, numbered, latest⟩
  · refine ⟨valid, fun generation listed => ?_, keys ▸ tracks.distinct, fun generation held => ?_⟩
    · exact (tracks.known generation (keys ▸ listed)).trans later
    · exact keys ▸ tracks.held generation (kept generation held)
  · refine ⟨valid, ?_, ?_, fun generation held => ?_⟩
    · rw [keys, numbered]
      intro generation listed
      rcases List.mem_cons.mp listed with rfl | earlier
      · exact Nat.le_refl _
      · exact Nat.le_succ_of_le (tracks.known generation earlier)
    · rw [keys]
      refine List.nodup_cons.mpr ⟨fun earlier => ?_, tracks.distinct⟩
      exact Nat.not_succ_le_self _ (tracks.known _ earlier)
    · rw [keys]
      exact congrArg some (latest generation held)

theorem Tracks.step (feeds : world.Feeds inputs)
    (tracks : Tracks (inputs loop.outside) loop.supervisor) {posted : List Event}
    (step : Step world inputs loop posted next) : Tracks (inputs next.outside) next.supervisor := by
  cases step with
  | posted event =>
      rw [(post_frame event).1, (post_frame event).2.1]
      exact tracks
  | told generation event =>
      rw [emit_eq_post, (post_frame _).1, (post_frame _).2.1]
      exact tracks
  | turned turn => exact tracks.turn feeds turn
  | worked outside works =>
      have keys := works.generations
      exact ⟨tracks.valid, keys ▸ tracks.known, keys ▸ tracks.distinct, keys ▸ tracks.held⟩

theorem Tracks.runs (feeds : world.Feeds inputs)
    (tracks : Tracks (inputs loop.outside) loop.supervisor) {posted : List Event}
    (runs : Runs world inputs loop posted next) : Tracks (inputs next.outside) next.supervisor := by
  induction runs with
  | done => exact tracks
  | more step _ inductionHypothesis => exact inductionHypothesis (tracks.step feeds step)

theorem Reached.tracks (feeds : world.Feeds inputs) (reached : Reached world inputs loop) :
    Tracks (inputs loop.outside) loop.supervisor := by
  rcases reached with ⟨outside, posted, empty, runs⟩
  refine Tracks.runs feeds ⟨Moment.initial_desk_valid, ?_, ?_, fun _ held => by cases held⟩ runs
  · rw [show (EventLoop.initial outside).outside = outside from rfl, empty]
    exact fun _ listed => absurd listed List.not_mem_nil
  · rw [show (EventLoop.initial outside).outside = outside from rfl, empty]
    exact List.nodup_nil

/-! ## After a failed write -/

/-- What is broken stays broken. -/
theorem broken_step (feeds : world.Feeds inputs)
    (tracks : Tracks (inputs loop.outside) loop.supervisor) {generation : Nat}
    (broken : Broken (inputs loop.outside) generation) {posted : List Event}
    (step : Step world inputs loop posted next) : Broken (inputs next.outside) generation := by
  cases step with
  | posted event =>
      rw [(post_frame event).2.1]
      exact broken
  | told speaker event =>
      rw [emit_eq_post, (post_frame _).2.1]
      exact broken
  | turned turn =>
      rcases turn_halves tracks turn with ⟨_, _, _, _, _, _, handled, _⟩
      rcases turn_eq turn with ⟨_, _, _, _, _, _, outside⟩
      rw [outside]
      exact feeds.broken_reactAll (allowed_of_handles rfl handled) _ broken
  | worked outside works => exact works.broken broken

theorem broken_runs (feeds : world.Feeds inputs)
    (tracks : Tracks (inputs loop.outside) loop.supervisor) {generation : Nat}
    (broken : Broken (inputs loop.outside) generation) {posted : List Event}
    (runs : Runs world inputs loop posted next) : Broken (inputs next.outside) generation := by
  induction runs with
  | done => exact broken
  | more step _ inductionHypothesis =>
      exact inductionHypothesis (tracks.step feeds step) (broken_step feeds tracks broken step)

/-- A compiler whose input is broken takes no job. -/
theorem refuses_of_broken (feeds : world.Feeds inputs)
    (tracks : Tracks (inputs loop.outside) loop.supervisor) {generation : Nat}
    (broken : Broken (inputs loop.outside) generation)
    (held : (inputs loop.outside).generations.head? = some generation) (job : Job) :
    (world.verdict loop.outside).dispatch job ≠ none := by
  intro accepts
  rcases (feeds.asks _ job).mp accepts with ⟨latest, input, rest, after, listed, taken⟩
  rcases broken with ⟨other, found, stopped⟩
  -- No generation is there twice, so the input that is asked is the broken one.
  have distinct := tracks.distinct
  rw [listed] at held distinct found
  cases held
  rcases List.mem_cons.mp found with same | later
  · cases same
    rw [Input.offer_of_refused (.inl stopped)] at taken
    cases taken
  · exact (List.nodup_cons.mp distinct).1 (List.mem_map.mpr ⟨_, later, rfl⟩)

/-- A compiler whose input is broken was not launched just now. -/
theorem held_of_handles {started : Inputs} {supervisor : Supervisor}
    (tracks : Tracks started supervisor) {generation : Nat} (broken : Broken started generation)
    {verdict : Verdict} {event : Event} {middle : Desk} {begun : List Launch}
    {told : List Resolution}
    (handled : Desk.Handles verdict supervisor.desk event middle begun told)
    (holds : middle.channel = some generation) : started.generations.head? = some generation := by
  rcases handled.channel_cases with ⟨_, gone | same⟩ | ⟨_, _, _, begins⟩
  · cases gone.symm.trans holds
  · exact tracks.held generation (same.symm.trans holds)
  · rcases broken with ⟨input, listed, _⟩
    have known := tracks.known generation (List.mem_map.mpr ⟨_, listed, rfl⟩)
    have new : supervisor.generation + 1 = generation := Option.some.inj (begins.symm.trans holds)
    omega

/-- An event ends the job of the identifier, which is in flight.  A failed write
is no event, and so is not among them. -/
def Ends (generation id : Nat) : Event → Prop
  | .compiler speaker said => speaker = generation ∧ (said = .exited ∨ said.outcomeFor? id ≠ none)
  | .restart _ => True
  | .stop => True
  | _ => False

/-- A job is in flight at the compiler of a generation, and nothing that waits
ends it. -/
structure Waits (loop : EventLoop σ) (generation : Nat) (ticket : Ticket) : Prop where
  flying : loop.supervisor.jobs.inFlight = some ticket
  current : loop.supervisor.generation = generation
  silent : ∀ event ∈ loop.pending, ¬ Ends generation ticket.job.id event

/-- Every other event leaves the job where it is. -/
theorem carried {verdict : Verdict} {desk after : Desk} {event : Event} {begun : List Launch}
    {told : List Resolution} (valid : desk.Valid)
    (handled : Desk.Handles verdict desk event after begun told) {ticket : Ticket}
    (flying : desk.jobs.inFlight = some ticket)
    (quiet : ¬ Ends desk.generation ticket.job.id event) :
    after.jobs.inFlight = some ticket ∧ after.generation = desk.generation := by
  have launched : desk.generation ≠ 0 := by
    intro first
    rw [valid.inFlight_of_first first] at flying
    cases flying
  cases handled with
  | ignored => exact ⟨flying, rfl⟩
  | launched running first => exact absurd first launched
  | lost running loss =>
      cases loss with
      | launchFailed first => exact absurd first launched
      | exited => exact absurd ⟨rfl, .inl rfl⟩ quiet
      | _ => exact absurd trivial quiet
  | submitted request waiter => exact ⟨(desk.jobs.submit_frame request waiter).2.trans flying, rfl⟩
  | readied => exact ⟨flying, rfl⟩
  | concluded running found settles =>
      rw [flying] at found
      cases found
      exact absurd ⟨rfl, .inr (settles ▸ nofun)⟩ quiet

namespace Waits

variable {generation : Nat} {ticket : Ticket}

/-- As long as nothing ends the job, a turn hands over no other one. -/
theorem turn (tracks : Tracks (inputs loop.outside) loop.supervisor)
    (waits : Waits loop generation ticket) {effects : List Effect}
    (turn : loop.turn world = some (next, effects)) :
    next.supervisor.jobs.inFlight = some ticket ∧ next.supervisor.generation = generation ∧
      handovers effects = [] := by
  rcases turn_halves tracks turn with ⟨event, rest, middle, told, lost, first, handled, pumped⟩
  have quiet := waits.silent event (first ▸ List.mem_cons_self)
  rw [← waits.current] at quiet
  rcases carried tracks.valid handled waits.flying quiet with ⟨flying, same⟩
  generalize handed : handovers effects = handovers at pumped
  generalize after : next.supervisor.desk = desk at pumped
  cases pumped with
  | idle =>
      refine ⟨(congrArg (·.jobs.inFlight) after).trans flying, ?_, rfl⟩
      exact (congrArg Desk.generation after).trans (same.trans waits.current)
  | taken ready free =>
      rw [flying] at free
      cases free
  | failed ready free =>
      rw [flying] at free
      cases free

/-- Whatever is posted waits behind the others. -/
theorem post (waits : Waits loop generation ticket) {event : Event}
    (quiet : ¬ Ends generation ticket.job.id event) :
    Waits (loop.post event).1 generation ticket := by
  rcases @post_frame _ loop event with ⟨supervisor, _, pending⟩
  refine ⟨supervisor ▸ waits.flying, supervisor ▸ waits.current, fun other listed => ?_⟩
  rcases pending other listed with before | rfl
  · exact waits.silent other before
  · exact quiet

theorem step (tracks : Tracks (inputs loop.outside) loop.supervisor)
    (waits : Waits loop generation ticket) {posted : List Event}
    (step : Step world inputs loop posted next)
    (quiet : ∀ event ∈ posted, ¬ Ends generation ticket.job.id event) :
    Waits next generation ticket := by
  cases step with
  | posted event => exact waits.post (quiet event List.mem_cons_self)
  | told speaker event =>
      rw [emit_eq_post]
      exact waits.post (quiet _ List.mem_cons_self)
  | turned turned =>
      rcases waits.turn tracks turned with ⟨flying, current, _⟩
      rcases turn_eq turned with ⟨event, rest, first, _, _, pending, _⟩
      refine ⟨flying, current, fun other listed => ?_⟩
      rw [pending] at listed
      rcases List.mem_append.mp listed with before | added
      · exact waits.silent other (first ▸ List.mem_cons_of_mem event before)
      · exact quiet other added
  | worked => exact ⟨waits.flying, waits.current, waits.silent⟩

theorem runs (feeds : world.Feeds inputs) (tracks : Tracks (inputs loop.outside) loop.supervisor)
    (waits : Waits loop generation ticket) {posted : List Event}
    (runs : Runs world inputs loop posted next)
    (quiet : ∀ event ∈ posted, ¬ Ends generation ticket.job.id event) :
    Waits next generation ticket := by
  induction runs with
  | done => exact waits
  | more step _ inductionHypothesis =>
      have here := waits.step tracks step fun event listed =>
        quiet event (List.mem_append_left _ listed)
      exact inductionHypothesis (tracks.step feeds step) here fun event listed =>
        quiet event (List.mem_append_right _ listed)

end Waits

/-- What follows once a write to the compiler of a generation has failed.  The
next job that is offered brings it to light; but none is offered as long as one
is in flight. -/
structure Unnoticed (world : World σ) (inputs : σ → Inputs) (loop : EventLoop σ)
    (generation : Nat) : Prop where
  /-- The compiler is given up when the next job is offered to it, whenever that
  is. -/
  refused : ∀ posted next, Runs world inputs loop posted next → ∀ last effects,
    next.turn world = some (last, effects) → ∀ handover ∈ handovers effects,
      handover.generation = generation →
        handover.accepted = false ∧ last.supervisor.jobs.phase = .exited
  /-- But if a job is in flight there, it remains so and no job is offered, as
  long as nothing else ends it. -/
  waits : ∀ ticket, Waits loop generation ticket → ∀ posted next,
    Runs world inputs loop posted next →
      (∀ event ∈ posted, ¬ Ends generation ticket.job.id event) →
        next.supervisor.jobs.inFlight = some ticket ∧ next.supervisor.jobs.phase = .busy ∧
          ∀ last effects, next.turn world = some (last, effects) → handovers effects = []

/-- A write that failed is noticed when the next job is offered, which a job in
flight does not let happen. -/
theorem unnoticed (feeds : world.Feeds inputs) (reached : Reached world inputs loop)
    {generation : Nat} (broken : Broken (inputs loop.outside) generation) :
    Unnoticed world inputs loop generation where
  refused := by
    intro posted next runs last effects turn handover listed same
    have tracks := (reached.tracks feeds).runs feeds runs
    have stopped := broken_runs feeds (reached.tracks feeds) broken runs
    rcases turn_halves tracks turn with ⟨event, rest, middle, told, lost, first, handled, pumped⟩
    rcases pumped.offered listed with ⟨_, _, _, _, _, holds, _⟩
    rw [same] at holds
    have held := held_of_handles tracks stopped handled holds
    have refuses := refuses_of_broken feeds tracks stopped held
    have denied := pumped.refused_of_verdict refuses listed
    exact ⟨denied, pumped.exited_of_refused listed denied⟩
  waits := by
    intro ticket waits posted next runs quiet
    have tracks := (reached.tracks feeds).runs feeds runs
    have later := waits.runs feeds (reached.tracks feeds) runs quiet
    refine ⟨later.flying, tracks.valid.jobs.busy.mpr ?_, fun last effects turn => ?_⟩
    · exact Option.isSome_iff_exists.mpr ⟨ticket, later.flying⟩
    · exact (later.turn tracks turn).2.2

/-! ## A run in which it happens -/

/-- A state in which nobody will find out that a job was never written.  The job
is in flight, its line is not among those that the compiler can read, and no
event that waits ends it. -/
structure Stranded (inputs : Inputs) (loop : EventLoop σ) (generation : Nat) (ticket : Ticket) :
    Prop where
  broken : ∃ input, (generation, input) ∈ inputs ∧ input.broken = true ∧
    Text.Utf8.encode ticket.job.line.toList ∉ (Output.cut input.written).1
  busy : loop.supervisor.jobs.phase = .busy
  waits : Waits loop generation ticket

/-- A world that starts every compiler, and in which nobody tells anything by
itself. -/
def quietWorld : World Inputs where
  verdict inputs :=
    { launch := fun _ => none
      dispatch := fun job =>
        match inputs with
        | [] => some Input.refusal
        | entry :: _ => Workshop.failureOf? (entry.2.offer job) }
  react inputs effect := (inputs.heed effect, [])

theorem quietWorld_feeds : quietWorld.Feeds id where
  asks inputs job := by
    cases inputs with
    | nil => exact ⟨nofun, fun ⟨_, _, _, _, impossible, _⟩ => nomatch impossible⟩
    | cons entry rest =>
        refine Workshop.failureOf?_eq_none.trans ⟨?_, ?_⟩
        · rintro ⟨after, taken⟩
          exact ⟨entry.1, entry.2, rest, after, rfl, taken⟩
        · rintro ⟨_, _, _, after, ⟨⟩, taken⟩
          exact ⟨after, taken⟩
  heeds _ _ _ := Relation.ReflTransGen.refl

def ticket : Ticket :=
  ⟨⟨1, .documentChanged ⟨⟨"file:///draft"⟩, 1, "draft"⟩⟩, none⟩

def begun : Supervisor :=
  { Supervisor.initial with channel := some 1, generation := 1 }

def ready : Supervisor :=
  { begun with jobs := { JobQueue.initial with phase := .ready } }

def busy : Supervisor :=
  { begun with jobs := ⟨.busy, [], some ticket, 2⟩ }

/-- The writer took the line of the job and could not write it. -/
def stranded : EventLoop Inputs :=
  ⟨busy, [], [(1, { broken := true })]⟩

theorem reached_stranded : Reached quietWorld id stranded := by
  have start : Reached quietWorld id (.initial []) := ⟨[], [], rfl, .done _⟩
  have first : Reached quietWorld id ⟨begun, [], [(1, {})]⟩ :=
    (start.step (.posted (.launch {}))).step (.turned rfl)
  have second : Reached quietWorld id ⟨ready, [], [(1, {})]⟩ :=
    (first.step (.told 1 .ready)).step (.turned rfl)
  have third : Reached quietWorld id ⟨busy, [], [(1, { waiting := [ticket.job.line] })]⟩ :=
    (second.step (.posted (.submit ticket.job.request none))).step (.turned rfl)
  have works : Works [(1, { waiting := [ticket.job.line] })] [(1, { broken := true })] :=
    Works.here ((Relation.ReflTransGen.single .take).tail .fail) []
  exact third.step (.worked ([(1, { broken := true })] : Inputs) works)

theorem stranded_stranded : Stranded stranded.outside stranded 1 ticket where
  broken := ⟨{ broken := true }, List.mem_cons_self, rfl, List.not_mem_nil⟩
  busy := rfl
  waits := ⟨rfl, rfl, fun _ listed => absurd listed List.not_mem_nil⟩

/-- A write that failed may never be noticed. -/
theorem failed_write_unnoticed : ¬ ∀ (world : World Inputs) (inputs : Inputs → Inputs),
    world.Feeds inputs → ∀ loop, Reached world inputs loop → ∀ generation ticket,
      ¬ Stranded (inputs loop.outside) loop generation ticket :=
  fun noticed => noticed quietWorld id quietWorld_feeds stranded reached_stranded 1 ticket
    stranded_stranded

theorem unnoticed_stranded :
    Unnoticed quietWorld id stranded 1 ∧ Waits stranded 1 ticket :=
  ⟨unnoticed quietWorld_feeds reached_stranded ⟨_, List.mem_cons_self, rfl⟩,
    stranded_stranded.waits⟩

end Feeding

end CompilerRelay
