import CompilerRelay.Proofs.JobQueue.Accounts
import CompilerRelay.Proofs.JobQueue.Latest

/-!
# What holds in every state of a job queue

The phase says whether a job is in flight, and the slot says it too.  The
identifiers of the jobs that wait are not in the order of the queue, because a
replacement takes an earlier place with a later identifier.  What does hold of
every history, whatever was asked of the queue and however often its compiler
was lost, is collected in `Represented`.

`Valid` is most of it, and speaks of the queue alone.  The last clause compares
a queued recompilation with those of the same document that were taken before,
which the queue has forgotten, so it is carried along a history together with
the jobs taken (`Succeeds`).  It needs `Valid` at one place: when a job is
taken, no other one of its document waits.
-/

namespace CompilerRelay
namespace JobQueue

/-- The jobs that were taken have identifiers that were given out, and a queued
recompilation was submitted after those of its document that were taken. -/
structure Succeeds (taken : List Job) (jobs : JobQueue) : Prop where
  given : ∀ job ∈ taken, job.id < jobs.nextId
  later : ∀ uri, ∀ ticket ∈ jobs.queue, ticket.job.isAbout uri = true →
    ∀ job ∈ taken, job.isAbout uri = true → job.id < ticket.job.id

/-- Nothing is taken, and nothing comes to the queue. -/
theorem Succeeds.of_subset {taken : List Job} {jobs next : JobQueue}
    (succeeds : Succeeds taken jobs) (fewer : next.queue ⊆ jobs.queue)
    (nextId : next.nextId = jobs.nextId) : Succeeds taken next where
  given job listed := nextId ▸ succeeds.given job listed
  later uri ticket queued := succeeds.later uri ticket (fewer queued)

/-- A job that is submitted is later than all that were taken. -/
theorem Succeeds.submit {taken : List Job} {jobs : JobQueue} (succeeds : Succeeds taken jobs)
    (request : Request) (waiter : Option Waiter) :
    Succeeds taken (jobs.submit request waiter).jobs where
  given job listed :=
    Nat.lt_of_lt_of_le (succeeds.given job listed) (jobs.nextId_le_submit request waiter)
  later := by
    intro uri ticket queued about job listed same
    rcases jobs.submit_queue request waiter queued with earlier | ⟨_, rfl⟩
    · exact succeeds.later uri ticket earlier about job listed same
    · exact succeeds.given job listed

/-- The job that is taken was the only one of its document that waited. -/
theorem Succeeds.take {taken : List Job} {jobs : JobQueue} (succeeds : Succeeds taken jobs)
    (valid : jobs.Valid) {ticket : Ticket} {rest : List Ticket}
    (split : jobs.queue = ticket :: rest) :
    Succeeds (taken ++ [ticket.job])
      { jobs with phase := .busy, queue := rest, inFlight := some ticket } where
  given := by
    intro job listed
    rcases List.mem_append.mp listed with earlier | now
    · exact succeeds.given job earlier
    · have queued : ticket ∈ jobs.queue := split ▸ List.mem_cons_self
      rw [List.mem_singleton.mp now]
      exact (valid.ids ticket (mem_outstanding.mpr (Or.inr queued))).2
  later := by
    intro uri other queued about job listed same
    rcases List.mem_append.mp listed with earlier | now
    · exact succeeds.later uri other (split ▸ List.mem_cons_of_mem _ queued) about job earlier same
    · rw [List.mem_singleton.mp now] at same
      have first : jobs.queue = [] ++ ticket :: rest := split
      have alone := (valid.filter_queue first (Job.isAbout_iff.mp same)).2
      exact absurd about (List.filter_eq_nil_iff.mp alone other.job (List.mem_map_of_mem queued))

/-- One operation of any kind. -/
theorem Succeeds.performs {taken : List Job} {jobs next : JobQueue} {operation : Operation}
    {job : Option Job} (succeeds : Succeeds taken jobs) (valid : jobs.Valid)
    (performs : Performs jobs operation next job) : Succeeds (taken ++ job.toList) next := by
  have nothing : taken ++ (none : Option Job).toList = taken := List.append_nil taken
  cases performs with
  | taken ready free split => exact succeeds.take valid split
  | submitted request waiter =>
      rw [nothing]
      exact succeeds.submit request waiter
  | completed answered =>
      rcases (jobs.complete_eq_some_iff _ _ _).mp answered with ⟨ticket, _, _, rfl⟩
      rw [nothing]
      exact succeeds.of_subset (List.Subset.refl _) rfl
  | exited =>
      rw [nothing]
      exact succeeds.of_subset (List.nil_subset _) rfl
  | restarted =>
      rw [nothing]
      exact succeeds.of_subset (List.nil_subset _) rfl
  | _ =>
      rw [nothing]
      exact succeeds.of_subset (List.Subset.refl _) rfl

/-- Every history, from the queue before any job. -/
theorem succeeds (history : List Operation) :
    Succeeds (initial.performAll history).2 (reached history) := by
  induction history using List.reverseRecOn with
  | nil =>
      constructor
      · intro job listed
        cases listed
      · intro uri ticket queued
        cases queued
  | append_singleton before last inductionHypothesis =>
      rw [reached_concat, performAll_concat]
      exact inductionHypothesis.performs (reached_valid before)
        ((reached before).perform_cases last)

/-- No more identifiers are given out than requests are submitted. -/
theorem nextId_le (history : List Operation) :
    (reached history).nextId ≤ 1 + (requests history).length := by
  rcases accepted_numbered history with ⟨_, nextId, requested⟩
  have fewer := requested.length_le
  rw [List.length_map] at fewer
  omega

/-- Distinct keys leave room for one queued recompilation of a document. -/
theorem Valid.single {jobs : JobQueue} (valid : jobs.Valid) (uri : Uri) :
    ((jobs.queue.map (·.job)).filter (·.isAbout uri)).length ≤ 1 := by
  by_cases waiting : ∃ ticket ∈ jobs.queue, ticket.coalesceKey = some uri
  · rcases waiting with ⟨ticket, queued, key⟩
    rcases List.append_of_mem queued with ⟨front, back, split⟩
    have beside := valid.filter_queue split key
    rw [split, List.map_append, List.map_cons, List.filter_append, beside.1,
      List.filter_cons_of_pos (Job.isAbout_iff.mpr key), beside.2]
    exact Nat.le_refl 1
  · have nothing : (jobs.queue.map (·.job)).filter (·.isAbout uri) = [] := by
      apply List.filter_eq_nil_iff.mpr
      intro job listed about
      rcases List.mem_map.mp listed with ⟨ticket, queued, rfl⟩
      exact waiting ⟨ticket, queued, Job.isAbout_iff.mp about⟩
    rw [nothing]
    exact Nat.zero_le 1

/-- What holds of the queue that a history reaches.  Most fields are about the
queue alone and hold of it as it is valid; the last two compare it with what was
done before. -/
structure Represented (history : List Operation) : Prop where
  /-- The phase in which a job is in flight says so, and no other phase does. -/
  busy : (reached history).phase = .busy ↔ (reached history).inFlight.isSome = true
  /-- A queue without a compiler has no jobs. -/
  gone : (reached history).phase = .exited →
    (reached history).queue = [] ∧ (reached history).inFlight = none
  /-- At most one queued job would recompile a document. -/
  single : ∀ uri, (((reached history).queue.map (·.job)).filter (·.isAbout uri)).length ≤ 1
  /-- No identifier is in use twice. -/
  distinct : ((reached history).outstanding.map (·.job.id)).Nodup
  numbered : ∀ ticket ∈ (reached history).outstanding,
    1 ≤ ticket.job.id ∧ ticket.job.id < (reached history).nextId
  /-- A queued recompilation was submitted after every one of the same document
  that was taken, for whichever compiler. -/
  later : ∀ uri, ∀ ticket ∈ (reached history).queue, ticket.job.isAbout uri = true →
    ∀ job ∈ (initial.performAll history).2, job.isAbout uri = true → job.id < ticket.job.id
  /-- A counter of 64 bits does for fewer than `2 ^ 64 - 1` requests. -/
  counted : (reached history).nextId ≤ 1 + (requests history).length

/-- The parts of a job queue agree, whatever is done to it. -/
theorem represented (history : List Operation) : Represented history where
  busy := (reached_valid history).busy
  gone exited := ⟨(reached_valid history).gone exited,
    (reached_valid history).inFlight_of_exited exited⟩
  single := (reached_valid history).single
  distinct := (reached_valid history).distinct
  numbered := (reached_valid history).ids
  later := (succeeds history).later
  counted := nextId_le history

/-- A replacement waits in front of a question that was asked before it. -/
example :
    let text (version : Int) : Snapshot := ⟨⟨"a"⟩, version, "text"⟩
    let history : List Operation := [.submit (.documentChanged (text 1)) none, .markReady, .drive,
      .submit (.documentChanged (text 2)) none, .submit (.hover ⟨⟨"a"⟩, ⟨0, 0⟩⟩) none,
      .submit (.documentSaved (text 3)) none]
    (reached history).outstanding.map (·.job.id) = [1, 4, 3] := by
  decide

end JobQueue
end CompilerRelay
