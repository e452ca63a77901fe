import CompilerRelay.Proofs.Supervisor.Replacement

/-!
# No job overtakes another

The queue is not ordered by identifiers, because a request to recompile a
document takes the place of an older one.  What is kept is the order of
places: a job that is never replaced waits behind every place that was taken
before its own.  The argument follows a place through its holders.  `Heir`
relates the first holder to a later one, and the invariants say that some heir
of an older job was sent to the compiler or stands in front.

An older job whose compiler was replaced or lost is no longer owed anything.
`Orderly` is therefore about jobs with no restart between them; if the
compiler was lost without a restart, the later job is not accepted or is lost
as well.
-/

namespace CompilerRelay

open Effect

namespace Moment

/-! ## What is owed to an older job -/

/-- Some heir of a job was sent to the compiler or is in front.  An heir is the
job itself or one that took its place in the queue, at first or second hand. -/
def Ahead (old : Ticket) (heard done : List (Verdict × Event)) (generation : Nat)
    (front : List Ticket) : Prop :=
  ∃ heir, Heir heard old heir ∧ (Sent done generation heir.job ∨ heir ∈ front)

/-- Before the first launch nothing was sent, so all that is owed is in front. -/
theorem Ahead.generation {old : Ticket} {heard done : List (Verdict × Event)}
    {before after : Nat} {front : List Ticket} (ahead : Ahead old heard done before front)
    (same : after = before ∨ before = 0) : Ahead old heard done after front := by
  rcases ahead with ⟨heir, chain, sent | waits⟩
  · have positive := sent.positive
    rcases same with same | first
    · exact ⟨heir, chain, Or.inl (same ▸ sent)⟩
    · omega
  · exact ⟨heir, chain, Or.inr waits⟩

theorem Ahead.handled {old : Ticket} {moment : Moment} {done : List (Verdict × Event)}
    {generation : Nat} {front behind : List Ticket}
    (ahead : Ahead old moment.before done generation front)
    (stays : ∀ heir ∈ front, heir ∈ behind) :
    Ahead old moment.through done generation behind := by
  rcases ahead with ⟨heir, chain, sent | waits⟩
  · exact ⟨heir, chain.through, Or.inl sent⟩
  · exact ⟨heir, chain.through, Or.inr (stays heir waits)⟩

/-- When an heir is replaced, the ticket that has its place is an heir. -/
theorem Ahead.replaced {old first second : Ticket} {moment : Moment}
    {done : List (Verdict × Event)} {generation : Nat} {front back : List Ticket}
    (ahead : Ahead old moment.before done generation (front ++ first :: back))
    (replaces : moment.Replaces first second) :
    Ahead old moment.through done generation (front ++ second :: back) := by
  rcases ahead with ⟨heir, chain, sent | waits⟩
  · exact ⟨heir, chain.through, Or.inl sent⟩
  · rcases List.mem_append.mp waits with before | rest
    · exact ⟨heir, chain.through, Or.inr (List.mem_append_left _ before)⟩
    · rcases List.mem_cons.mp rest with same | after
      · subst same
        exact ⟨second, Relation.ReflTransGen.tail chain.through
          ⟨moment, moment.in_through, replaces⟩,
          Or.inr (List.mem_append_right _ List.mem_cons_self)⟩
      · exact ⟨heir, chain.through,
          Or.inr (List.mem_append_right _ (List.mem_cons_of_mem _ after))⟩

/-- When the first ticket is sent, what was owed is sent or behind it. -/
theorem Ahead.pumped {old first : Ticket} {moment : Moment} {heard : List (Verdict × Event)}
    {generation : Nat} {front : List Ticket}
    (ahead : Ahead old heard moment.before generation (first :: front))
    (given : (⟨generation, first.job, true⟩ : Handover) ∈ handovers moment.effects) :
    Ahead old heard moment.through generation front := by
  rcases ahead with ⟨heir, chain, sent | waits⟩
  · exact ⟨heir, chain, Or.inl sent.through⟩
  · rcases List.mem_cons.mp waits with same | after
    · exact ⟨heir, chain, Or.inl ⟨moment, moment.in_through, same ▸ given⟩⟩
    · exact ⟨heir, chain, Or.inr after⟩

theorem Ahead.idle {old : Ticket} {moment : Moment} {heard : List (Verdict × Event)}
    {generation : Nat} {front : List Ticket}
    (ahead : Ahead old heard moment.before generation front) :
    Ahead old heard moment.through generation front := by
  rcases ahead with ⟨heir, chain, sent | waits⟩
  · exact ⟨heir, chain, Or.inl sent.through⟩
  · exact ⟨heir, chain, Or.inr waits⟩

/-- Until a restart or the loss of the compiler, some heir of an accepted job
was sent or waits. -/
theorem preserved_ahead {older : Moment} {old : Ticket} (accepted : older.Accepts old) :
    Preserved fun heard done desk => older.In heard →
      (∃ restart : Moment, restart.In heard ∧ restart.Restarts ∧ older.Precedes restart) ∨
      desk.jobs.phase = .exited ∨ Ahead old heard done desk.generation desk.jobs.queue where
  start := fun inside => absurd inside older.not_in_nil
  handles := by
    intro moment event between begun told happened launched handled invariant inside
    rcases (in_through_iff older moment).mp inside with earlier | same
    · have restarts : (∃ settings, event = .restart settings) → ∃ restart : Moment,
          restart.In moment.through ∧ restart.Restarts ∧ older.Precedes restart := by
        rintro ⟨settings, restarted⟩
        exact ⟨moment, moment.in_through, ⟨settings, happened.trans restarted⟩, earlier⟩
      rcases invariant earlier with ⟨restart, within, again, order⟩ | gone | ahead
      · exact Or.inl ⟨restart, within.append _, again, order⟩
      · rcases handled.exited_or_restart moment.desk_valid gone with gone | again
        · exact Or.inr (Or.inl gone)
        · exact Or.inl (restarts again)
      · cases handled.requeues with
        | kept queue nextId generation =>
            rw [queue]
            exact Or.inr (Or.inr ((ahead.generation generation).handled fun _ listed => listed))
        | dropped queue nextId gone =>
            rcases gone with gone | again
            · exact Or.inr (Or.inl gone)
            · exact Or.inl (restarts again)
        | replaced submitted present id key oldKey split found queue nextId generation =>
            rw [split] at ahead
            rw [queue, generation]
            exact Or.inr (Or.inr
              (ahead.replaced (replaces_of_found happened submitted present id key found)))
        | appended submitted present id queue nextId generation =>
            rw [queue, generation]
            exact Or.inr (Or.inr (ahead.handled fun _ listed => List.mem_append_left _ listed))
    · subst same
      subst happened
      rcases accepted.place handled with ⟨waits, _⟩
      exact Or.inr (Or.inr ⟨old, Relation.ReflTransGen.refl, Or.inr waits⟩)
  pumps := by
    intro moment between after given lost valid offered pumped invariant inside
    rcases invariant inside with restarted | gone | ahead
    · exact Or.inl restarted
    · exact Or.inr (Or.inl (pumped.exited_of_exited gone))
    · cases pumped with
      | idle => exact Or.inr (Or.inr ahead.idle)
      | @taken ticket rest generation ready free split held accepts =>
          rw [split] at ahead
          have given := taken_given valid held offered
          exact Or.inr (Or.inr (ahead.pumped given))
      | failed => exact Or.inr (Or.inl rfl)

/-- Of two marked places in a list, one comes first. -/
theorem append_cons_cases {α : Type} {front back front' back' : List α} {first second : α}
    (different : first ≠ second) (split : front ++ first :: back = front' ++ second :: back') :
    (∃ between, front = front' ++ second :: between) ∨
      ∃ between, front' = front ++ first :: between ∧ back = between ++ second :: back' := by
  rcases List.append_eq_append_iff.mp split with ⟨rest, whole, same⟩ | ⟨rest, whole, same⟩
  · cases rest with
    | nil => exact absurd (List.cons.inj same).1 different
    | cons head between =>
        have parts := List.cons.inj same
        exact Or.inr ⟨between, parts.1 ▸ whole, parts.2⟩
  · cases rest with
    | nil => exact absurd (List.cons.inj same).1.symm different
    | cons head between =>
        have parts := List.cons.inj same
        exact Or.inl ⟨between, parts.1 ▸ whole⟩

/-- What is not in a list is marked only where it was put at the end. -/
theorem eq_of_append_last {α : Type} {list front back : List α} {last : α} (absent : last ∉ list)
    (split : list ++ [last] = front ++ last :: back) : list = front := by
  rcases List.append_eq_append_iff.mp split with ⟨rest, whole, same⟩ | ⟨rest, whole, same⟩
  · cases rest with
    | nil => exact (List.append_nil list ▸ whole).symm
    | cons head between => simp at same
  · cases rest with
    | nil => exact (List.append_nil front ▸ whole)
    | cons head between =>
        have parts := List.cons.inj same
        exact absurd (whole ▸ List.mem_append_right _ (parts.1 ▸ List.mem_cons_self)) absent

/-- In front of a job that is no recompilation stands what is owed to the jobs
accepted before it. -/
theorem preserved_place {older newer : Moment} {old new : Ticket} (accepted : older.Accepts old)
    (accepts : newer.Accepts new) (order : older.Precedes newer)
    (lasting : new.coalesceKey = none)
    (unbroken : ∀ restart : Moment, restart.Restarts → older.Precedes restart →
      ¬ restart.Precedes newer) :
    Preserved fun heard done desk => newer.In heard → ∀ front back,
      desk.jobs.queue = front ++ new :: back → Ahead old heard done desk.generation front where
  start := fun inside => absurd inside newer.not_in_nil
  handles := by
    intro moment event between begun told happened launched handled invariant inside front back
      split
    rcases (in_through_iff newer moment).mp inside with earlier | same
    · cases handled.requeues with
      | kept queue nextId generation =>
          have ahead := invariant earlier front back (queue ▸ split)
          exact (ahead.generation generation).handled fun _ listed => listed
      | dropped queue nextId gone =>
          rw [queue] at split
          simp at split
      | @replaced ticket first uri before behind submitted present id key oldKey split' found queue
          nextId generation =>
          have replaces := replaces_of_found happened submitted present id key found
          have different := earlier.ticket_ne accepts replaces.1
          rw [generation]
          rcases append_cons_cases different (queue.symm.trans split) with
            ⟨middle, front_eq⟩ | ⟨middle, front_eq, back_eq⟩
          · have ahead := invariant earlier front (middle ++ first :: behind)
              (by rw [split', front_eq, List.append_assoc]; rfl)
            exact ahead.handled fun _ listed => listed
          · have ahead := invariant earlier (before ++ first :: middle) back
              (by rw [split', back_eq, List.append_assoc]; rfl)
            exact front_eq ▸ ahead.replaced replaces
      | @appended ticket submitted present id queue nextId generation =>
          have last : moment.Accepts ticket :=
            (accepts_iff moment ticket).mpr ⟨present, happened.trans submitted, id⟩
          have different := earlier.ticket_ne accepts last
          rw [generation]
          rcases append_cons_cases different (queue.symm.trans split) with
            ⟨middle, front_eq⟩ | ⟨middle, front_eq, back_eq⟩
          · exact (invariant earlier front middle front_eq).handled fun _ listed => listed
          · simp at back_eq
    · subst same
      subst happened
      rcases accepts.place handled with ⟨_, generation, last⟩
      rw [last lasting] at split
      rw [generation]
      have absent : new ∉ newer.state.desk.jobs.queue := by
        intro listed
        have outstanding := JobQueue.mem_outstanding.mpr (Or.inr listed)
        have bound := (newer.desk_valid.jobs.ids new outstanding).2
        have id := ((accepts_iff newer new).mp accepts).2.2
        change new.job.id < newer.state.jobs.nextId at bound
        omega
      rw [← eq_of_append_last absent split]
      rcases (preserved_ahead accepted).state newer order with
        ⟨restart, within, again, since⟩ | gone | ahead
      · exact absurd within (unbroken restart again since)
      · exact absurd gone ((accepts_iff newer new).mp accepts).1
      · exact ahead.handled fun _ listed => listed
  pumps := by
    intro moment between after given lost valid offered pumped invariant inside front back split
    cases pumped with
    | idle => exact (invariant inside front back split).idle
    | @taken ticket rest generation ready free queue held accepts =>
        have whole : between.jobs.queue = (ticket :: front) ++ new :: back := by
          rw [queue]
          exact congrArg (List.cons ticket) split
        have given := taken_given valid held offered
        exact (invariant inside (ticket :: front) back whole).pumped given
    | failed => simp [JobQueue.abandon] at split

/-! ## Jobs that keep their place -/

/-- A job that is never replaced. -/
def Lasting (job : Job) : Prop :=
  job.kind.category ≠ .recompile

instance : DecidablePred Lasting :=
  fun job => inferInstanceAs (Decidable (job.kind.category ≠ .recompile))

theorem not_lasting {job : Job} {uri : Uri} (key : job.request.coalesceKey = some uri) :
    ¬ Lasting job :=
  fun lasting => lasting (Request.category_of_coalesceKey key)

/-- The jobs that are never replaced are in the order of their identifiers. -/
theorem preserved_increasing : Preserved fun _ done desk =>
    ((course done desk).filter Lasting).Pairwise (·.id < ·.id) where
  start := List.Pairwise.nil
  handles := by
    intro moment event between begun told happened launched handled invariant
    have bounded := (preserved_once.state moment).2
    cases course_cases moment.before handled.requeues with
    | fewer sublist nextId => exact invariant.sublist (sublist.filter _)
    | replaced submitted id key oldKey split course nextId =>
        rw [split, List.filter_append,
          List.filter_cons_of_neg (by simpa using not_lasting oldKey)] at invariant
        rw [course, List.filter_append, List.filter_cons_of_neg (by simpa using not_lasting key)]
        exact invariant
    | @appended ticket submitted id course nextId =>
        rw [course, List.filter_append, List.pairwise_append]
        refine ⟨invariant, ?_, ?_⟩
        · exact (List.pairwise_singleton _ ticket.job).sublist List.filter_sublist
        · intro first before last now
          have same := List.mem_singleton.mp (List.mem_filter.mp now).1
          rw [same, id]
          exact bounded first (List.mem_filter.mp before).1
  pumps := by
    intro moment between after given lost valid offered pumped invariant
    exact invariant.sublist ((course_through moment offered pumped).filter _)

end Moment

/-! ## The order of a run -/

open Moment

/-- The compiler that has a job answers it. -/
def Moment.Answers (moment : Moment) (ticket : Ticket) (generation : Nat) : Prop :=
  moment.state.jobs.inFlight = some ticket ∧ moment.state.generation = generation ∧
    ∃ outcome, moment.event = .compiler generation (.response ticket.job.id outcome)

/-- In which order jobs are handed over in a run.  Recompilations may give up
their place to later ones, so the order is stated for jobs that do not, and for
what is ahead of them. -/
structure Orderly (events : List (Verdict × Event)) : Prop where
  /-- When a job that is never replaced is handed over, a job accepted before
  it was sent to the same compiler, or was replaced, and the last job in its
  place was sent; that job is about the same document and younger. -/
  ahead : ∀ (older newer moment : Moment) (old new : Ticket) (handover : Handover),
    newer.In events → moment.In events → older.Accepts old → newer.Accepts new →
      older.Precedes newer → Lasting new.job →
        (∀ restart : Moment, restart.Restarts → older.Precedes restart →
          ¬ restart.Precedes newer) →
        handover ∈ handovers moment.effects → handover.job = new.job →
          Sent moment.before handover.generation old.job ∨
            ∃ heir uri, Heir moment.through old heir ∧ old.job.id < heir.job.id ∧
              old.coalesceKey = some uri ∧ heir.coalesceKey = some uri ∧
                (∀ (later : Moment) (other : Ticket), later.In events →
                  ¬ later.Replaces heir other) ∧
                Sent moment.before handover.generation heir.job
  /-- A question about a document is answered by a compiler that was sent a text
  at least as new as every one submitted before the question. -/
  texts : ∀ (older newer moment : Moment) (text question : Ticket) (query : Query)
    (generation : Nat), newer.In events → moment.In events → older.Accepts text →
      newer.Accepts question → older.Precedes newer →
        (question.job.request = .hover query ∨ question.job.request = .definition query) →
          text.coalesceKey = some query.uri →
            (∀ restart : Moment, restart.Restarts → older.Precedes restart →
              ¬ restart.Precedes newer) →
            moment.Answers question generation →
              ∃ latest : Ticket, latest.coalesceKey = some query.uri ∧ text.job.id ≤ latest.job.id ∧
                Sent moment.before generation latest.job
  /-- Jobs that are never replaced are handed over in the order in which they
  were accepted. -/
  increasing : ((handed events).filter Lasting).Pairwise (·.id < ·.id)

private theorem owed {events : List (Verdict × Event)} {older newer moment : Moment}
    {old new : Ticket} {handover : Handover} (within : newer.In events) (inside : moment.In events)
    (accepted : older.Accepts old) (accepts : newer.Accepts new) (order : older.Precedes newer)
    (lasting : Lasting new.job)
    (unbroken : ∀ restart : Moment, restart.Restarts → older.Precedes restart →
      ¬ restart.Precedes newer)
    (given : handover ∈ handovers moment.effects) (same : handover.job = new.job) :
    ∃ heir, Heir moment.through old heir ∧ Sent moment.before handover.generation heir.job := by
  have unkeyed : new.coalesceKey = none := by
    cases key : new.coalesceKey with
    | none => rfl
    | some uri => exact absurd lasting (not_lasting key)
  have place := preserved_place accepted accepts order unkeyed unbroken
  rcases (preserved_entered.and place).offered given with ⟨desk, ticket, rest, ⟨entered, owing⟩,
    valid, ready, free, split, current, offered, after, positive⟩
  have queued : ticket ∈ desk.jobs.queue := split ▸ List.mem_cons_self
  rcases entered ticket (JobQueue.mem_outstanding.mpr (Or.inr queued)) with
    ⟨origin, early, accepts', _⟩
  have jobs : ticket.job = new.job := offered.trans same
  have moments : origin = newer :=
    accepts'.unique (early.trans inside) within accepts (congrArg Job.id jobs)
  subst moments
  have tickets : ticket = new := accepts'.ticket_unique accepts
  subst tickets
  rcases owing early [] rest split with ⟨heir, chain, sent | impossible⟩
  · exact ⟨heir, chain, current ▸ sent⟩
  · cases impossible

/-- Every run hands its jobs over in order. -/
theorem orderly (events : List (Verdict × Event)) : Orderly events where
  ahead := by
    intro older newer moment old new handover within inside accepted accepts order lasting unbroken
      given same
    rcases owed within inside accepted accepts order lasting unbroken given same with
      ⟨heir, chain, sent⟩
    rcases chain.eq_or_lt with same | ⟨younger, uri, oldKey, heirKey⟩
    · exact Or.inl (same ▸ sent)
    · have known : Sent events handover.generation heir.job :=
        sent.extend ((List.prefix_append _ _).trans inside)
      exact Or.inr ⟨heir, uri, chain, younger, oldKey, heirKey,
        fun later other laterIn => known.not_replaced laterIn, sent⟩
  texts := by
    intro older newer moment text question query generation within inside accepted accepts order
      asks key unbroken answers
    rcases answers with ⟨flying, current, _⟩
    have lasting : Lasting question.job := by
      rcases asks with hover | definition
      · rw [Lasting, Job.kind, hover]
        intro impossible
        cases impossible
      · rw [Lasting, Job.kind, definition]
        intro impossible
        cases impossible
    rcases preserved_carried.state moment question flying with ⟨taken, before, given, _⟩
    have earlier : taken.In events := before.trans ((List.prefix_append _ _).trans inside)
    rcases owed within earlier accepted accepts order lasting unbroken given rfl with
      ⟨heir, chain, sent⟩
    have known : Sent moment.before generation heir.job := by
      rw [← current]
      exact sent.extend ((List.prefix_append _ _).trans before)
    rcases chain.eq_or_lt with same | ⟨younger, uri, textKey, heirKey⟩
    · subst same
      exact ⟨heir, key, Nat.le_refl _, known⟩
    · rw [key] at textKey
      exact ⟨heir, textKey ▸ heirKey, Nat.le_of_lt younger, known⟩
  increasing := by
    refine (preserved_increasing.holds events).sublist (List.Sublist.filter _ ?_)
    exact List.sublist_append_left _ _

/-- The second text takes the place of the first, in front of the question. -/
example :
    let willing : Verdict := ⟨fun _ => none, fun _ => none⟩
    (handed [(willing, .launch {}),
      (willing, .submit (.documentChanged ⟨⟨"a"⟩, 1, "old"⟩) none),
      (willing, .submit (.hover ⟨⟨"a"⟩, ⟨0, 0⟩⟩) none),
      (willing, .submit (.documentSaved ⟨⟨"a"⟩, 2, "new"⟩) none),
      (willing, .compiler 1 .ready),
      (willing, .compiler 1 (.response 3 (.error (.rejected ""))))]).map (·.id) = [3, 2] := by
  decide

end CompilerRelay
