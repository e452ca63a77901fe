import CompilerRelay.Proofs.Supervisor.History

/-!
# Which jobs reach which compilers

A job is handed to a compiler at most once in a run, and a compiler is handed
one job at a time.  `Disciplined` lists what holds of every run; each field
has an invariant of its own below.  Handovers that a compiler refuses count as
handovers, except where the text says that a job was taken.

Generation 0 lies before the first launch and is no compiler's.  Nothing in
the supervisor keeps an event from being stamped with it, and readiness so
stamped would count for the first compiler.  That readiness is announced by
the compiler a job is handed to is therefore stated for runs in which nothing
announces itself for generation 0.  No other field needs this.
-/

namespace CompilerRelay

open Effect

/-- The jobs that compilers were offered in a run, in order. -/
def handed (events : List (Verdict × Event)) : List Job :=
  (handovers (Supervisor.initial.run events).2).map (·.job)

/-- The jobs that compilers were offered, and behind them those that wait.  The
course grows at its end, or a job in it is replaced or lost; it is never
reordered. -/
def course (done : List (Verdict × Event)) (desk : Desk) : List Job :=
  handed done ++ desk.jobs.queue.map (·.job)

/-- What becomes of the course when an event is handled.  Jobs that were offered
are in front of all that can change, so they stay where they are. -/
inductive Reroutes (done : List (Verdict × Event)) (desk after : Desk) (event : Event) : Prop
  | fewer (sublist : (course done after).Sublist (course done desk))
      (nextId : after.jobs.nextId = desk.jobs.nextId)
  | replaced {ticket : Ticket} {old : Job} {uri : Uri} {front back : List Job}
      (submitted : event = .submit ticket.job.request ticket.waiter)
      (id : ticket.job.id = desk.jobs.nextId) (key : ticket.coalesceKey = some uri)
      (oldKey : old.request.coalesceKey = some uri)
      (split : course done desk = front ++ old :: back)
      (course : course done after = front ++ ticket.job :: back)
      (nextId : after.jobs.nextId = desk.jobs.nextId + 1)
  | appended {ticket : Ticket} (submitted : event = .submit ticket.job.request ticket.waiter)
      (id : ticket.job.id = desk.jobs.nextId)
      (course : course done after = course done desk ++ [ticket.job])
      (nextId : after.jobs.nextId = desk.jobs.nextId + 1)

theorem course_cases (done : List (Verdict × Event)) {desk after : Desk} {event : Event}
    (requeues : Desk.Requeues desk after event) : Reroutes done desk after event := by
  cases requeues with
  | kept queue nextId generation =>
      refine .fewer ?_ nextId
      rw [course, queue]
      exact List.Sublist.refl _
  | dropped queue nextId gone =>
      refine .fewer ?_ nextId
      rw [course, queue]
      exact List.Sublist.append (List.Sublist.refl _) (List.nil_sublist _)
  | @replaced ticket old uri front back submitted present id key oldKey split found queue nextId
    generation =>
      refine @Reroutes.replaced done desk after event ticket old.job uri
        (handed done ++ front.map (·.job)) (back.map (·.job)) submitted id key oldKey ?_ ?_ nextId
      · rw [course, split, List.map_append, List.append_assoc]
        rfl
      · rw [course, queue, List.map_append, List.append_assoc]
        rfl
  | appended submitted present id queue nextId generation =>
      refine .appended submitted id ?_ nextId
      rw [course, queue, List.map_append, ← List.append_assoc]
      rfl

namespace Moment

theorem handed_through (moment : Moment) :
    handed moment.through = handed moment.before ++ (handovers moment.effects).map (·.job) := by
  rw [handed, handovers_through, List.map_append]
  rfl

/-- A job that is handed over keeps its place in the course. -/
theorem course_through (moment : Moment) {between after : Desk} {given : List Handover}
    {lost : List Resolution} (offered : handovers moment.effects = given)
    (pumped : Desk.Pumps moment.verdict between after given lost) :
    (course moment.through after).Sublist (course moment.before between) := by
  rw [course, handed_through, offered, List.append_assoc]
  exact List.Sublist.append (List.Sublist.refl _) pumped.handed_sublist

/-- The moment belongs to the generation of the job, or to the time before the
first launch, which was no restart. -/
def Suits (moment : Moment) (heard : List (Verdict × Event)) (generation : Nat) : Prop :=
  moment.state.generation = generation ∨
    generation = 1 ∧ moment.state.generation = 0 ∧ ∃ (first : Moment) (settings : Settings),
      moment.Precedes first ∧ first.In heard ∧ first.state.generation = 0 ∧
        first.event = .launch settings ∧
          (⟨1, settings.compiler, true⟩ : Launch) ∈ launches first.effects

/-- The compiler is to be replaced. -/
def Restarts (moment : Moment) : Prop :=
  ∃ settings, moment.event = .restart settings

/-- The compiler of a generation ended, could not be started, or did not take
a job. -/
def FoundGone (heard done : List (Verdict × Event)) (generation : Nat) : Prop :=
  ∃ moment : Moment,
    (moment.In heard ∧ moment.state.generation = generation ∧
      moment.event = .compiler generation .exited) ∨
    (moment.In heard ∧ ∃ settings, (⟨generation, settings, false⟩ : Launch) ∈
      launches moment.effects) ∨
    (moment.In done ∧ ∃ job, (⟨generation, job, false⟩ : Handover) ∈ handovers moment.effects)

/-! ## Each job once -/

/-- No job that was handed over is in the queue, and none is there twice. -/
theorem preserved_once : Preserved fun _ done desk =>
    ((course done desk).map (·.id)).Nodup ∧
      ∀ job ∈ course done desk, job.id < desk.jobs.nextId where
  start := ⟨List.nodup_nil, fun _ member => absurd member List.not_mem_nil⟩
  handles := by
    intro moment event between begun told happened launched handled invariant
    rcases invariant with ⟨distinct, bounded⟩
    have fresh : moment.state.desk.jobs.nextId ∉
        (course moment.before moment.state.desk).map (·.id) := by
      intro member
      rcases List.mem_map.mp member with ⟨job, listed, same⟩
      have bound := bounded job listed
      omega
    cases course_cases moment.before handled.requeues with
    | fewer sublist nextId =>
        rw [nextId]
        exact ⟨distinct.sublist (sublist.map _),
          fun job listed => bounded job (sublist.subset listed)⟩
    | replaced submitted id key oldKey split course nextId =>
        rw [split] at distinct bounded fresh
        rw [course, nextId]
        refine ⟨?_, ?_⟩
        · rw [List.map_append, List.map_cons] at distinct fresh ⊢
          rw [id]
          exact JobQueue.nodup_exchange distinct fresh
        · intro job listed
          rcases List.mem_append.mp listed with ahead | rest
          · exact Nat.lt_succ_of_lt (bounded job (List.mem_append_left _ ahead))
          · rcases List.mem_cons.mp rest with same | behind
            · rw [same, id]
              exact Nat.lt_succ_self _
            · exact Nat.lt_succ_of_lt
                (bounded job (List.mem_append_right _ (List.mem_cons_of_mem _ behind)))
    | appended submitted id course nextId =>
        rw [course, nextId]
        refine ⟨?_, ?_⟩
        · rw [List.map_append, List.map_singleton, id]
          refine List.nodup_append.mpr ⟨distinct, List.nodup_singleton _, ?_⟩
          intro first member second last same
          rw [List.mem_singleton.mp last] at same
          exact fresh (same ▸ member)
        · intro job listed
          rcases List.mem_append.mp listed with earlier | now
          · exact Nat.lt_succ_of_lt (bounded job earlier)
          · rw [List.mem_singleton.mp now, id]
            exact Nat.lt_succ_self _
  pumps := by
    intro moment between after given lost valid offered pumped invariant
    rcases invariant with ⟨distinct, bounded⟩
    have fewer := course_through moment offered pumped
    rw [pumped.nextId_eq]
    exact ⟨distinct.sublist (fewer.map _), fun job listed => bounded job (fewer.subset listed)⟩

/-! ## The generation of a job -/

theorem Suits.later {moment last : Moment} {generation : Nat}
    (suits : moment.Suits last.before generation) : moment.Suits last.through generation := by
  rcases suits with same | ⟨one, early, first, settings, order, inside, first_generation, rest⟩
  · exact Or.inl same
  · exact Or.inr ⟨one, early, first, settings, order, inside.append _, first_generation, rest⟩

/-- The job was accepted in the generation or before the first launch, and no
restart came since. -/
def Entered (ticket : Ticket) (heard : List (Verdict × Event)) (generation : Nat) : Prop :=
  ∃ accepted : Moment, accepted.In heard ∧ accepted.Accepts ticket ∧
    accepted.Suits heard generation ∧
      ∀ restart : Moment, restart.In heard → restart.Restarts → ¬ accepted.Precedes restart

/-- A step that is no restart comes between no job and its restart. -/
theorem unbroken_through {moment accepted : Moment} (other : ¬ moment.Restarts)
    (before : ∀ restart : Moment, restart.In moment.before → restart.Restarts →
      ¬ accepted.Precedes restart) :
    ∀ restart : Moment, restart.In moment.through → restart.Restarts →
      ¬ accepted.Precedes restart := by
  intro restart inside restarts
  rcases (in_through_iff restart moment).mp inside with earlier | same
  · exact before restart earlier restarts
  · exact absurd (same ▸ restarts) other

theorem Entered.through {ticket : Ticket} {moment : Moment} {generation : Nat}
    (entered : Entered ticket moment.before generation) (other : ¬ moment.Restarts) :
    Entered ticket moment.through generation := by
  rcases entered with ⟨accepted, inside, accepts, suits, before⟩
  exact ⟨accepted, inside.append _, accepts, suits.later, unbroken_through other before⟩

theorem Accepts.entered {ticket : Ticket} {moment : Moment} (accepts : moment.Accepts ticket) :
    Entered ticket moment.through moment.state.generation :=
  ⟨moment, moment.in_through, accepts, Or.inl rfl,
    fun _ inside _ order => not_in_of_precedes order inside⟩

/-- What is outstanding was accepted in this generation or before the first
launch, and no restart came since. -/
theorem preserved_entered : Preserved fun heard _ desk =>
    ∀ ticket ∈ desk.jobs.outstanding, Entered ticket heard desk.generation where
  start := fun _ member => absurd member List.not_mem_nil
  handles := by
    intro moment event between begun told happened launched handled invariant ticket listed
    have noRestart : (∀ settings, event ≠ .restart settings) → ¬ moment.Restarts := by
      rintro other ⟨settings, restarted⟩
      exact other settings (happened.symm.trans restarted)
    cases handled.remains moment.desk_valid listed with
    | stayed before other generation =>
        rw [generation]
        exact (invariant ticket before).through (noRestart other)
    | @launched settings before first said begins generation =>
        rcases invariant ticket before with ⟨accepted, inside, accepts, suits, unbroken⟩
        have early : accepted.state.generation = 0 := by
          rcases suits with same | ⟨_, early, _⟩
          · exact same.trans first
          · exact early
        have other : ¬ moment.Restarts := noRestart fun _ => said ▸ (nomatch ·)
        exact ⟨accepted, inside.append _, accepts, Or.inr ⟨generation, early, moment, settings,
          inside, moment.in_through, first, happened.trans said, launched ▸ begins⟩,
          unbroken_through other unbroken⟩
    | arrived said present id generation =>
        rw [generation]
        exact Accepts.entered ((accepts_iff moment ticket).mpr ⟨present, happened.trans said, id⟩)
  pumps := by
    intro moment between after given lost valid offered pumped invariant ticket listed
    rw [pumped.generation_eq]
    exact invariant ticket (pumped.outstanding_subset listed)

/-! ## Readiness and loss -/

/-- The phases between the announcement of a compiler and its end. -/
def Announced (phase : Phase) : Prop :=
  phase = .ready ∨ phase = .busy

/-- A compiler that is in use has announced itself; what announced itself
before the first launch counts for the first compiler. -/
theorem preserved_announced : Preserved fun heard _ desk =>
    Announced desk.jobs.phase → ∃ ready : Moment, ready.In heard ∧
      ready.event = .compiler ready.state.generation .ready ∧
        (ready.state.generation = desk.generation ∨ ready.state.generation = 0) where
  start := by
    intro announced
    rcases announced with impossible | impossible <;> cases impossible
  handles := by
    intro moment event between begun told happened launched handled invariant announced
    have stays : Announced moment.state.desk.jobs.phase → ∃ ready : Moment,
        ready.In moment.through ∧ ready.event = .compiler ready.state.generation .ready ∧
          (ready.state.generation = moment.state.desk.generation ∨
            ready.state.generation = 0) := by
      intro before
      rcases invariant before with ⟨ready, inside, said, current⟩
      exact ⟨ready, inside.append _, said, current⟩
    cases handled with
    | ignored => exact stays announced
    | launched running first started =>
        rcases stays announced with ⟨ready, inside, said, current⟩
        refine ⟨ready, inside, said, Or.inr ?_⟩
        rcases current with same | early
        · exact same.trans first
        · exact early
    | lost running loss =>
        rcases loss.abandons with ⟨phase, unready, abandoned⟩
        rw [abandoned] at announced
        rcases unready with gone | waiting
        · subst gone
          rcases announced with impossible | impossible <;> cases impossible
        · subst waiting
          rcases announced with impossible | impossible <;> cases impossible
    | submitted request waiter =>
        refine stays ?_
        rw [← (moment.state.desk.jobs.submit_frame request waiter).1]
        exact announced
    | readied running waiting => exact ⟨moment, moment.in_through, happened, Or.inl rfl⟩
    | concluded running flying settles =>
        have busy := moment.desk_valid.jobs.busy.mpr (by rw [flying]; rfl)
        exact stays (Or.inr busy)
  pumps := by
    intro moment between after given lost valid offered pumped invariant announced
    cases pumped with
    | idle => exact invariant announced
    | taken ready => exact invariant (Or.inl ready)
    | failed => rcases announced with impossible | impossible <;> cases impossible

/-- A compiler that was found gone is replaced before anything happens. -/
theorem preserved_gone : Preserved fun heard done desk =>
    ∀ generation, FoundGone heard done generation → generation ≤ desk.generation ∧
      (generation = desk.generation → desk.jobs.phase = .exited) where
  start := by
    rintro generation ⟨moment, ⟨inside, _⟩ | ⟨inside, _⟩ | ⟨inside, _⟩⟩
    · exact absurd inside moment.not_in_nil
    · exact absurd inside moment.not_in_nil
    · exact absurd inside moment.not_in_nil
  handles := by
    intro moment event between begun told happened launched handled invariant generation found
    have grows := handled.generation_eq.1
    -- What was found before stays so, unless a new generation begins.
    have stays : FoundGone moment.before moment.before generation →
        generation ≤ between.generation ∧
          (generation = between.generation → between.jobs.phase = .exited) := by
      intro before
      have bound := invariant generation before
      refine ⟨by omega, fun same => ?_⟩
      have current : generation = moment.state.desk.generation := by omega
      exact handled.exited_of_exited moment.desk_valid (bound.2 current) (same.symm.trans current)
    rcases found with ⟨earlier, ⟨inside, current, ended⟩ | ⟨inside, settings, failed⟩ |
      ⟨inside, job, refused⟩⟩
    · rcases (in_through_iff earlier moment).mp inside with before | same
      · exact stays ⟨earlier, Or.inl ⟨before, current, ended⟩⟩
      · subst same
        rw [← happened, ended, ← current] at handled
        change earlier.state.desk.generation = generation at current
        exact ⟨by omega, fun _ => handled.exited_of_end earlier.desk_valid⟩
    · rcases (in_through_iff earlier moment).mp inside with before | same
      · exact stays ⟨earlier, Or.inr (Or.inl ⟨before, settings, failed⟩)⟩
      · subst same
        rw [launched] at failed
        have new := handled.generation_eq.2 _ failed
        have some_launch := List.length_pos_of_mem failed
        change generation = _ at new
        exact ⟨by omega, fun _ => handled.exited_of_failed failed rfl⟩
    · exact stays ⟨earlier, Or.inr (Or.inr ⟨inside, job, refused⟩)⟩
  pumps := by
    intro moment between after given lost valid offered pumped invariant generation found
    rw [pumped.generation_eq]
    have stays : FoundGone moment.through moment.before generation →
        generation ≤ between.generation ∧
          (generation = between.generation → after.jobs.phase = .exited) := by
      intro before
      have bound := invariant generation before
      exact ⟨bound.1, fun same => pumped.exited_of_exited (bound.2 same)⟩
    rcases found with ⟨earlier, ended | failed | ⟨inside, job, refused⟩⟩
    · exact stays ⟨earlier, Or.inl ended⟩
    · exact stays ⟨earlier, Or.inr (Or.inl failed)⟩
    · rcases (in_through_iff earlier moment).mp inside with before | same
      · exact stays ⟨earlier, Or.inr (Or.inr ⟨before, job, refused⟩)⟩
      · subst same
        rw [offered] at refused
        rcases pumped.offered refused with ⟨_, _, _, _, _, held, _⟩
        have current := (valid.held _ held).1
        exact ⟨Nat.le_of_eq current, fun _ => pumped.exited_of_refused refused rfl⟩

/-! ## One job at a time -/

/-- The compiler ended the job, or said something that could not be read.
Output that belongs to no job is blamed on the one in flight. -/
def Concludes (moment : Moment) (generation id : Nat) : Prop :=
  (∃ outcome, moment.event = .compiler generation (.response id outcome)) ∨
    ∃ reason, moment.event = .compiler generation (.unmatched reason)

/-- What settles a job ends it. -/
theorem concludes_of_settles {moment : Moment} {generation id : Nat} {said : CompilerEvent}
    {outcome : Outcome} (spoke : moment.event = .compiler generation said)
    (settles : said.outcomeFor? id = some outcome) : moment.Concludes generation id := by
  rcases CompilerEvent.cases_of_outcomeFor? settles with answered | ⟨reason, unread, _⟩
  · exact Or.inl ⟨outcome, by rw [spoke, answered]⟩
  · exact Or.inr ⟨reason, by rw [spoke, unread]⟩

/-- A job that was taken is in flight until it is ended or its compiler is
gone. -/
theorem preserved_flying {taken : Moment} {generation : Nat} {job : Job}
    (given : (⟨generation, job, true⟩ : Handover) ∈ handovers taken.effects) :
    Preserved fun heard done desk => taken.In done →
      (∃ ending : Moment, taken.Precedes ending ∧ ending.In heard ∧
        ending.Concludes generation job.id) ∨
      ((∃ ticket, desk.jobs.inFlight = some ticket ∧ ticket.job = job) ∧
        desk.generation = generation) ∨
      (generation ≤ desk.generation ∧
        (generation = desk.generation → desk.jobs.phase = .exited)) where
  start := fun inside => absurd inside taken.not_in_nil
  handles := by
    intro moment event between begun told happened launched handled invariant inside
    rcases invariant inside with ⟨ending, order, within, concludes⟩ |
      ⟨⟨ticket, flying, same⟩, current⟩ | gone
    · exact Or.inl ⟨ending, order, within.append _, concludes⟩
    · cases handled.flies moment.desk_valid flying with
      | carried stays unchanged =>
          exact Or.inr (Or.inl ⟨⟨ticket, stays, same⟩, unchanged.trans current⟩)
      | concluded _ spoke settles =>
          rw [current] at spoke
          exact Or.inl ⟨moment, inside, moment.in_through,
            concludes_of_settles (happened.trans spoke) (same ▸ settles)⟩
      | lost _ later gone =>
          rw [current] at later gone
          exact Or.inr (Or.inr ⟨later, fun equal => gone equal.symm⟩)
    · refine Or.inr (Or.inr ?_)
      have grows := handled.generation_eq.1
      refine ⟨by omega, fun same => ?_⟩
      have now : generation = moment.state.desk.generation := by omega
      exact handled.exited_of_exited moment.desk_valid (gone.2 now) (same.symm.trans now)
  pumps := by
    intro moment between after handed lost valid offered pumped invariant inside
    rw [pumped.generation_eq]
    rcases (in_through_iff taken moment).mp inside with before | same
    · rcases invariant before with concluded | ⟨⟨ticket, flying, job_eq⟩, current⟩ | gone
      · exact Or.inl concluded
      · cases pumped with
        | idle => exact Or.inr (Or.inl ⟨⟨ticket, flying, job_eq⟩, current⟩)
        | taken ready free =>
            rw [free] at flying
            cases flying
        | failed ready free =>
            rw [free] at flying
            cases flying
      · exact Or.inr (Or.inr ⟨gone.1, fun now => pumped.exited_of_exited (gone.2 now)⟩)
    · subst same
      rw [offered] at given
      cases pumped with
      | idle => cases given
      | taken ready free split held accepts =>
          have now := List.mem_singleton.mp given
          cases now
          exact Or.inr (Or.inl ⟨⟨_, rfl, rfl⟩, (valid.held _ held).1.symm⟩)
      | failed =>
          rcases List.mem_map.mp given with ⟨_, _, impossible⟩
          cases impossible

end Moment

/-! ## The discipline -/

open Moment

/-- How jobs are handed over in a run.  Handovers that the compiler refuses are
handovers too: a job is offered once, whether it is taken or not. -/
structure Disciplined (events : List (Verdict × Event)) : Prop where
  /-- No job is handed over twice, whether it is taken or not. -/
  once : ((handovers (Supervisor.initial.run events).2).map (·.job.id)).Nodup
  /-- An identifier is one job's alone. -/
  identified : ∀ (first second : Moment) (early late : Ticket), first.In events →
    second.In events → first.Accepts early → second.Accepts late →
      early.job.id = late.job.id → first = second
  /-- A job that is handed over was accepted in the generation it is handed to,
  or before the first launch if that is the first generation and no restart
  began it.  No compiler that is started by a restart after the acceptance, or
  later than that, is the one it is handed to. -/
  origin : ∀ (moment : Moment) (handover : Handover), moment.In events →
    handover ∈ handovers moment.effects → ∃ (accepted : Moment) (waiter : Option Waiter),
      accepted.In moment.through ∧ accepted.Accepts ⟨handover.job, waiter⟩ ∧
        accepted.Suits moment.through handover.generation ∧
          ∀ restart later : Moment, restart.In events → restart.Restarts →
            accepted.Precedes restart → later.In events → restart.In later.through →
              ∀ launch ∈ launches later.effects, handover.generation < launch.generation
  /-- Between two jobs that one compiler took, it ended the first or said
  something that could not be read. -/
  single : ∀ (first second : Moment) (generation : Nat) (early late : Job),
    second.In events → first.Precedes second →
      (⟨generation, early, true⟩ : Handover) ∈ handovers first.effects →
        (⟨generation, late, true⟩ : Handover) ∈ handovers second.effects →
          ∃ ending : Moment, first.Precedes ending ∧ ending.In second.through ∧
            ending.Concludes generation early.id
  /-- Only a compiler that announced itself is handed a job, if nothing announces
  itself for the generation that no launch has. -/
  announced : (∀ verdict, (verdict, Event.compiler 0 .ready) ∉ events) →
    ∀ (moment : Moment) (handover : Handover), moment.In events →
      handover ∈ handovers moment.effects → ∃ ready : Moment, ready.In moment.through ∧
        ready.state.generation = handover.generation ∧
          ready.event = .compiler handover.generation .ready
  /-- No compiler that was found gone is handed a job. -/
  present : ∀ (moment : Moment) (handover : Handover), moment.In events →
    handover ∈ handovers moment.effects →
      ¬ FoundGone moment.through moment.before handover.generation

/-- Every run hands its jobs over in a disciplined way. -/
theorem disciplined (events : List (Verdict × Event)) : Disciplined events where
  once := by
    have distinct := (preserved_once.holds events).1
    rw [course, List.map_append] at distinct
    have jobs := (List.nodup_append.mp distinct).1
    rw [handed, List.map_map] at jobs
    exact jobs
  identified := by
    intro first second early late left right former latter same
    exact former.unique left right latter same
  origin := by
    intro moment handover inside member
    rcases preserved_entered.offered member with ⟨desk, ticket, rest, entered, valid, ready, free,
      split, current, same, after, positive⟩
    have queued : ticket ∈ desk.jobs.queue := split ▸ List.mem_cons_self
    rcases entered ticket (JobQueue.mem_outstanding.mpr (Or.inr queued)) with
      ⟨accepted, within, accepts, suits, unbroken⟩
    refine ⟨accepted, ticket.waiter, within, same ▸ accepts, current ▸ suits, ?_⟩
    intro restart later restartIn restarts order laterIn follows launch launched
    have new := later.next_generation.2 launch launched
    -- The restart comes after the handover, and so does the launch.
    have afterwards : moment.Precedes later := by
      rcases trichotomy inside laterIn with earlier | equal | before
      · exact earlier
      · exact absurd order (unbroken restart (equal ▸ follows) restarts)
      · exact absurd order (unbroken restart (follows.trans before.in_through) restarts)
    have grows := afterwards.generation_le
    omega
  single := by
    intro first second generation early late inside order former latter
    rcases (preserved_flying former).offered latter with ⟨desk, ticket, rest, flying, valid, ready,
      free, split, current, same, after, positive⟩
    rcases flying order with concluded | ⟨⟨_, busy, _⟩, _⟩ | ⟨_, gone⟩
    · exact concluded
    · rw [free] at busy
      cases busy
    · rw [gone current.symm] at ready
      cases ready
  announced := by
    intro stamped moment handover inside member
    rcases preserved_announced.offered member with ⟨desk, ticket, rest, announced, valid, phase,
      free, split, current, same, after, positive⟩
    rcases announced (Or.inl phase) with ⟨ready, within, said, generation⟩
    have own : ready.state.generation = handover.generation := by
      rcases generation with own | early
      · exact own.trans current
      · rw [early] at said
        have heard := In.mem (within.trans inside)
        rw [said] at heard
        exact absurd heard (stamped _)
    exact ⟨ready, within, own, own ▸ said⟩
  present := by
    intro moment handover inside member found
    rcases preserved_gone.offered member with ⟨desk, ticket, rest, gone, valid, ready, free, split,
      current, same, after, positive⟩
    rw [(gone handover.generation found).2 current.symm] at ready
    cases ready

def firstJob : List (Verdict × Event) :=
  let willing : Verdict := ⟨fun _ => none, fun _ => none⟩
  [(willing, .launch {}), (willing, .compiler 1 .ready), (willing, .submit .shutdown none)]

theorem firstJob_announced : handed firstJob = [⟨1, .shutdown⟩] ∧
    ∃ ready : Moment, ready.In firstJob ∧ ready.event = .compiler 1 .ready := by
  have unstamped : ∀ verdict, (verdict, Event.compiler 0 .ready) ∉ firstJob := by
    intro verdict member
    rcases List.mem_cons.mp member with impossible | member
    · cases impossible
    · rcases List.mem_cons.mp member with impossible | member
      · cases impossible
      · cases List.mem_singleton.mp member
  let last : Moment := ⟨firstJob.take 2, ⟨fun _ => none, fun _ => none⟩, .submit .shutdown none⟩
  have given : handovers last.effects = [⟨1, ⟨1, .shutdown⟩, true⟩] := rfl
  have inside : last.In firstJob := List.prefix_rfl
  rcases (disciplined firstJob).announced unstamped last _ inside
    (given ▸ List.mem_singleton_self _) with
    ⟨ready, within, _, said⟩
  exact ⟨rfl, ready, within, said⟩

end CompilerRelay
