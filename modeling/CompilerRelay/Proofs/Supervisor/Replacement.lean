import CompilerRelay.Proofs.Supervisor.Carriage
import Mathlib.Logic.Relation

/-!
# Replacement in the queue

A request to recompile a document takes the place of a queued one for the same
document.  `Replaces` is one such event and `Heir` any number of them, so a
place in the queue is followed from its first holder to the last.  A job that
gave up its place is out of the course for good: it is not queued again and
no compiler is ever offered it.
-/

namespace CompilerRelay

open Effect

theorem Request.category_of_coalesceKey {request : Request} {uri : Uri}
    (key : request.coalesceKey = some uri) : request.kind.category = .recompile := by
  cases request <;> first | rfl | cases key

namespace Moment

/-- The event puts a new ticket in the place of a queued one.  The place in the
queue is kept, and the job in flight is never replaced. -/
def Replaces (moment : Moment) (old new : Ticket) : Prop :=
  moment.Accepts new ∧ ∃ uri queue, new.coalesceKey = some uri ∧
    JobQueue.replace uri new moment.state.jobs.queue = some (queue, old)

/-- The second ticket has the place of the first, through any number of
replacements in a run. -/
def Heir (events : List (Verdict × Event)) : Ticket → Ticket → Prop :=
  Relation.ReflTransGen fun old new => ∃ moment : Moment, moment.In events ∧
    moment.Replaces old new

theorem Heir.through {moment : Moment} {old new : Ticket} (heir : Heir moment.before old new) :
    Heir moment.through old new := by
  refine Relation.ReflTransGen.mono ?_ old new heir
  rintro first second ⟨earlier, inside, replaces⟩
  exact ⟨earlier, inside.append _, replaces⟩

theorem Replaces.mem_queue {moment : Moment} {old new : Ticket}
    (replaces : moment.Replaces old new) : old ∈ moment.state.jobs.queue := by
  rcases replaces with ⟨_, uri, queue, key, found⟩
  rcases JobQueue.replace_cases uri new moment.state.jobs.queue with
    ⟨missing, _⟩ | ⟨front, other, back, split, otherKey, found'⟩
  · rw [missing] at found
    cases found
  · rw [found'] at found
    cases found
    exact split ▸ List.mem_append_right _ List.mem_cons_self

theorem Replaces.keys {moment : Moment} {old new : Ticket} (replaces : moment.Replaces old new) :
    ∃ uri, old.coalesceKey = some uri ∧ new.coalesceKey = some uri := by
  rcases replaces with ⟨_, uri, queue, key, found⟩
  rcases JobQueue.replace_cases uri new moment.state.jobs.queue with
    ⟨missing, _⟩ | ⟨front, other, back, split, otherKey, found'⟩
  · rw [missing] at found
    cases found
  · rw [found'] at found
    cases found
    exact ⟨uri, otherKey, key⟩

theorem Replaces.id_lt {moment : Moment} {old new : Ticket} (replaces : moment.Replaces old new) :
    old.job.id < new.job.id := by
  rw [((accepts_iff moment new).mp replaces.1).2.2]
  have listed := JobQueue.mem_outstanding.mpr (Or.inr replaces.mem_queue)
  exact (moment.desk_valid.jobs.ids old listed).2

/-- Heirs stand for the same document, and the latest is the youngest. -/
theorem Heir.eq_or_lt {events : List (Verdict × Event)} {old new : Ticket}
    (heir : Heir events old new) : new = old ∨ old.job.id < new.job.id ∧
      ∃ uri, old.coalesceKey = some uri ∧ new.coalesceKey = some uri := by
  induction heir with
  | refl => exact Or.inl rfl
  | tail _ last inductionHypothesis =>
      rcases last with ⟨moment, inside, replaces⟩
      rcases replaces.keys with ⟨uri, oldKey, newKey⟩
      have younger := replaces.id_lt
      rcases inductionHypothesis with same | ⟨before, other, firstKey, middleKey⟩
      · subst same
        exact Or.inr ⟨younger, uri, oldKey, newKey⟩
      · rw [oldKey] at middleKey
        exact Or.inr ⟨by omega, uri, middleKey ▸ firstKey, newKey⟩

theorem replaces_of_found {moment : Moment} {ticket old : Ticket} {uri : Uri}
    {queue : List Ticket} {event : Event} (happened : moment.event = event)
    (submitted : event = .submit ticket.job.request ticket.waiter)
    (present : moment.state.desk.jobs.phase ≠ .exited)
    (id : ticket.job.id = moment.state.desk.jobs.nextId) (key : ticket.coalesceKey = some uri)
    (found : JobQueue.replace uri ticket moment.state.desk.jobs.queue = some (queue, old)) :
    moment.Replaces old ticket :=
  ⟨(accepts_iff moment ticket).mpr ⟨present, happened.trans submitted, id⟩, uri, queue, key, found⟩

/-- An accepted ticket waits; at the end, unless it has the place of another. -/
theorem Accepts.place {moment : Moment} {ticket : Ticket} (accepted : moment.Accepts ticket)
    {between : Desk} {begun : List Launch} {told : List Resolution}
    (handled : Desk.Handles moment.verdict moment.state.desk moment.event between begun told) :
    ticket ∈ between.jobs.queue ∧ between.generation = moment.state.desk.generation ∧
      (ticket.coalesceKey = none →
        between.jobs.queue = moment.state.desk.jobs.queue ++ [ticket]) := by
  rcases (accepts_iff moment ticket).mp accepted with ⟨present, submitted, id⟩
  rw [submitted] at handled
  rw [handled.submit_eq.1]
  have submits := moment.state.desk.jobs.submit_cases ticket.job.request ticket.waiter
  have same : moment.state.desk.jobs.ticket ticket.job.request ticket.waiter = ticket :=
    accepted.ticket_eq
  rw [same] at submits
  refine ⟨?_, rfl, ?_⟩
  · change ticket ∈ (moment.state.desk.jobs.submit ticket.job.request ticket.waiter).jobs.queue
    generalize moment.state.desk.jobs.submit ticket.job.request ticket.waiter = submission
      at submits
    cases submits with
    | refused gone => exact absurd gone present
    | replaced => exact List.mem_append_right _ List.mem_cons_self
    | appended => exact List.mem_append_right _ List.mem_cons_self
  · intro unkeyed
    change (moment.state.desk.jobs.submit ticket.job.request ticket.waiter).jobs.queue = _
    generalize moment.state.desk.jobs.submit ticket.job.request ticket.waiter = submission
      at submits
    cases submits with
    | refused gone => exact absurd gone present
    | replaced _ uri _ _ _ key =>
        rw [unkeyed] at key
        cases key
    | appended => rfl

/-- The new ticket stands where the old one stood, and the old one's waiter is
told. -/
theorem Replaces.place {moment : Moment} {old new : Ticket} (replaces : moment.Replaces old new)
    {between : Desk} {begun : List Launch} {told : List Resolution}
    (handled : Desk.Handles moment.verdict moment.state.desk moment.event between begun told) :
    (∃ front back, moment.state.desk.jobs.queue = front ++ old :: back ∧
      between.jobs.queue = front ++ new :: back) ∧
        told = old.resolve (.error .superseded) := by
  rcases replaces with ⟨accepted, uri, queue, key, found⟩
  rcases (accepts_iff moment new).mp accepted with ⟨present, submitted, id⟩
  rw [submitted] at handled
  rw [handled.submit_eq.1, handled.submit_eq.2]
  have submits := moment.state.desk.jobs.submit_cases new.job.request new.waiter
  have same : moment.state.desk.jobs.ticket new.job.request new.waiter = new := accepted.ticket_eq
  rw [same] at submits
  change (∃ front back, moment.state.desk.jobs.queue = front ++ old :: back ∧
    (moment.state.desk.jobs.submit new.job.request new.waiter).jobs.queue =
      front ++ new :: back) ∧ _
  generalize moment.state.desk.jobs.submit new.job.request new.waiter = submission at submits
  cases submits with
  | refused gone => exact absurd gone present
  | replaced _ other front first back otherKey split _ found' =>
      rw [key] at otherKey
      cases otherKey
      have both := found.symm.trans found'
      cases both
      exact ⟨⟨front, back, split, rfl⟩, rfl⟩
  | appended _ alone =>
      rcases JobQueue.replace_cases uri new moment.state.jobs.queue with
        ⟨missing, _⟩ | ⟨front, first, back, split, firstKey, _⟩
      · rw [missing] at found
        cases found
      · refine absurd firstKey (alone uri key first ?_)
        exact split ▸ List.mem_append_right _ List.mem_cons_self

/-! ## What was replaced does not come back -/

/-- Only an accepted request adds to the course. -/
theorem mem_course_cases {done : List (Verdict × Event)} {desk after : Desk} {event : Event}
    (reroutes : Reroutes done desk after event) {job : Job} (member : job ∈ course done after) :
    job ∈ course done desk ∨ job.id = desk.jobs.nextId := by
  cases reroutes with
  | fewer sublist nextId => exact Or.inl (sublist.subset member)
  | replaced submitted id key oldKey split course nextId =>
      rw [course] at member
      rw [split]
      rcases List.mem_append.mp member with ahead | rest
      · exact Or.inl (List.mem_append_left _ ahead)
      · rcases List.mem_cons.mp rest with same | behind
        · exact Or.inr (same ▸ id)
        · exact Or.inl (List.mem_append_right _ (List.mem_cons_of_mem _ behind))
  | appended submitted id course nextId =>
      rw [course] at member
      rcases List.mem_append.mp member with earlier | now
      · exact Or.inl earlier
      · exact Or.inr (List.mem_singleton.mp now ▸ id)

/-- A job that gave up its place is never handed over. -/
theorem preserved_replaced {moment : Moment} {old new : Ticket}
    (replaces : moment.Replaces old new) : Preserved fun heard done desk =>
      moment.In heard → old.job ∉ course done desk ∧ old.job.id < desk.jobs.nextId where
  start := fun inside => absurd inside moment.not_in_nil
  handles := by
    intro now event between begun told happened launched handled invariant inside
    rcases (in_through_iff moment now).mp inside with earlier | same
    · rcases invariant earlier with ⟨absent, bound⟩
      refine ⟨fun member => ?_, Nat.lt_of_lt_of_le bound handled.nextId_le⟩
      rcases mem_course_cases (course_cases now.before handled.requeues) member with
        before | fresh
      · exact absent before
      · omega
    · subst same
      subst happened
      have once := preserved_once.state moment
      rcases replaces.place handled with ⟨⟨front, back, split, queue⟩, _⟩
      have before : course moment.before moment.state.desk =
          (handed moment.before ++ front.map (·.job)) ++ old.job :: back.map (·.job) := by
        rw [course, split, List.map_append, List.append_assoc]
        rfl
      have after : course moment.before between =
          (handed moment.before ++ front.map (·.job)) ++ new.job :: back.map (·.job) := by
        rw [course, queue, List.map_append, List.append_assoc]
        rfl
      rw [before] at once
      rw [after]
      have distinct := (List.nodup_middle.mp (List.Nodup.of_map _ once.1))
      refine ⟨fun member => ?_, ?_⟩
      · rcases List.mem_append.mp member with ahead | rest
        · exact (List.nodup_cons.mp distinct).1 (List.mem_append_left _ ahead)
        · rcases List.mem_cons.mp rest with same | behind
          · have younger := replaces.id_lt
            rw [same] at younger
            omega
          · exact (List.nodup_cons.mp distinct).1 (List.mem_append_right _ behind)
      · have bound := once.2 old.job (List.mem_append_right _ List.mem_cons_self)
        exact Nat.lt_of_lt_of_le bound handled.nextId_le
  pumps := by
    intro now between after given lost valid offered pumped invariant inside
    rcases invariant inside with ⟨absent, bound⟩
    rw [pumped.nextId_eq]
    exact ⟨fun member => absent ((course_through now offered pumped).subset member), bound⟩

/-- A job that was sent never gave up its place. -/
theorem Sent.not_replaced {moment : Moment} {events : List (Verdict × Event)} {generation : Nat}
    {old new : Ticket} (sent : Sent events generation old.job) (inside : moment.In events) :
    ¬ moment.Replaces old new := by
  intro replaces
  rcases sent with ⟨taken, within, given⟩
  refine ((preserved_replaced replaces).holds events inside).1 (List.mem_append_left _ ?_)
  exact List.mem_map.mpr ⟨_, mem_handovers.mpr ((mem_effects_iff _ _).mpr
    ⟨taken, within, mem_handovers.mp given⟩), rfl⟩

end Moment
end CompilerRelay
