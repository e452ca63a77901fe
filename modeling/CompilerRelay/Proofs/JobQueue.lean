import CompilerRelay.JobQueue
import Mathlib.Data.List.Nodup

/-!
# Operations of the job queue

The first half says once what each operation can do: `Submits` has one case
for each way a submission can go, and `drive`, `complete` and `abandon` have
an equation each.  Later modules argue from these and do not open the
definitions again.

The second half is the representation invariant `Valid`.  It ties the phase to
the slot of the job in flight, keeps identifiers apart, and allows one queued
recompilation for each document.  Every operation preserves it, with any
arguments; in particular an answer may carry any identifier.
-/

namespace CompilerRelay
namespace JobQueue

def ticket (jobs : JobQueue) (request : Request) (waiter : Option Waiter) : Ticket :=
  ⟨⟨jobs.nextId, request⟩, waiter⟩

/-- Either nothing in the queue is about the document, or the first ticket that
is gives up its place. -/
theorem replace_cases (uri : Uri) (ticket : Ticket) (queue : List Ticket) :
    (replace uri ticket queue = none ∧ ∀ other ∈ queue, other.coalesceKey ≠ some uri) ∨
      ∃ front old back, queue = front ++ old :: back ∧ old.coalesceKey = some uri ∧
        replace uri ticket queue = some (front ++ ticket :: back, old) := by
  induction queue with
  | nil => exact Or.inl ⟨rfl, fun _ member => absurd member List.not_mem_nil⟩
  | cons first rest inductionHypothesis =>
      by_cases same : first.coalesceKey = some uri
      · exact Or.inr ⟨[], first, rest, rfl, same, by rw [replace, if_pos same]; rfl⟩
      · rw [replace, if_neg same]
        rcases inductionHypothesis with ⟨missing, others⟩ | ⟨front, old, back, split, key, found⟩
        · refine Or.inl ⟨by rw [missing]; rfl, ?_⟩
          intro other member
          rcases List.mem_cons.mp member with head | later
          · exact head ▸ same
          · exact others other later
        · exact Or.inr ⟨first :: front, old, back, congrArg (List.cons first) split, key,
            by rw [found]; rfl⟩

/-- How a submission can go.  The cases exclude each other, and the queue is
changed at one place at most. -/
inductive Submits (jobs : JobQueue) (ticket : Ticket) : Submission → Prop
  /-- There is no compiler. -/
  | refused (gone : jobs.phase = .exited) :
      Submits jobs ticket ⟨jobs, none, ticket.resolve (.error .unavailable)⟩
  /-- A queued job about the same document gives up its place. -/
  | replaced (running : jobs.phase ≠ .exited) (uri : Uri) (front : List Ticket) (old : Ticket)
      (back : List Ticket) (key : ticket.coalesceKey = some uri)
      (split : jobs.queue = front ++ old :: back) (oldKey : old.coalesceKey = some uri)
      (found : replace uri ticket jobs.queue = some (front ++ ticket :: back, old)) :
      Submits jobs ticket ⟨{ jobs with
        nextId := jobs.nextId + 1
        queue := front ++ ticket :: back }, some jobs.nextId, old.resolve (.error .superseded)⟩
  /-- The job goes to the end. -/
  | appended (running : jobs.phase ≠ .exited)
      (alone : ∀ uri, ticket.coalesceKey = some uri →
        ∀ other ∈ jobs.queue, other.coalesceKey ≠ some uri) :
      Submits jobs ticket ⟨{ jobs with
        nextId := jobs.nextId + 1
        queue := jobs.queue ++ [ticket] }, some jobs.nextId, []⟩

theorem submit_cases (jobs : JobQueue) (request : Request) (waiter : Option Waiter) :
    Submits jobs (jobs.ticket request waiter) (jobs.submit request waiter) := by
  unfold submit
  by_cases gone : jobs.phase = .exited
  · simp only [if_pos gone]
    exact .refused gone
  · simp only [if_neg gone]
    cases key : request.coalesceKey with
    | none =>
        refine .appended gone ?_
        intro uri same
        have absent : request.coalesceKey = some uri := same
        rw [key] at absent
        cases absent
    | some uri =>
        simp only [Option.bind_some]
        rcases replace_cases uri (jobs.ticket request waiter) jobs.queue with
          ⟨missing, others⟩ | ⟨front, old, back, split, oldKey, found⟩
        · unfold ticket at missing
          simp only [missing]
          refine .appended gone ?_
          intro other same
          have equal : request.coalesceKey = some other := same
          rw [key] at equal
          exact Option.some.inj equal ▸ others
        · unfold ticket at found
          simp only [found]
          exact .replaced gone uri front old back key split oldKey found

theorem submit_of_exited (jobs : JobQueue) (gone : jobs.phase = .exited) (request : Request)
    (waiter : Option Waiter) : jobs.submit request waiter =
      ⟨jobs, none, (jobs.ticket request waiter).resolve (.error .unavailable)⟩ :=
  if_pos gone

/-- A submission concerns neither the compiler nor the job in flight. -/
theorem submit_frame (jobs : JobQueue) (request : Request) (waiter : Option Waiter) :
    (jobs.submit request waiter).jobs.phase = jobs.phase ∧
      (jobs.submit request waiter).jobs.inFlight = jobs.inFlight := by
  have submits := jobs.submit_cases request waiter
  generalize jobs.submit request waiter = submission at submits
  cases submits <;> exact ⟨rfl, rfl⟩

theorem nextId_le_submit (jobs : JobQueue) (request : Request) (waiter : Option Waiter) :
    jobs.nextId ≤ (jobs.submit request waiter).jobs.nextId := by
  have submits := jobs.submit_cases request waiter
  generalize jobs.submit request waiter = submission at submits
  cases submits with
  | refused => exact Nat.le_refl _
  | _ => exact Nat.le_succ _

/-- A request that is not refused uses up an identifier. -/
theorem submit_nextId (jobs : JobQueue) (request : Request) (waiter : Option Waiter)
    (running : jobs.phase ≠ .exited) :
    (jobs.submit request waiter).jobs.nextId = jobs.nextId + 1 := by
  have submits := jobs.submit_cases request waiter
  generalize jobs.submit request waiter = submission at submits
  cases submits with
  | refused gone => exact absurd gone running
  | _ => rfl

theorem drive_eq_none_iff (jobs : JobQueue) :
    jobs.drive = none ↔ ¬ (jobs.phase = .ready ∧ jobs.inFlight = none ∧ jobs.queue ≠ []) := by
  rcases jobs with ⟨phase, queue, inFlight, nextId⟩
  cases phase <;> cases inFlight <;> cases queue <;> simp [drive]

theorem drive_eq_some_iff (jobs next : JobQueue) (job : Job) :
    jobs.drive = some (job, next) ↔ ∃ ticket rest, jobs.phase = .ready ∧ jobs.inFlight = none ∧
      jobs.queue = ticket :: rest ∧ job = ticket.job ∧
        next = { jobs with phase := .busy, queue := rest, inFlight := some ticket } := by
  rcases jobs with ⟨phase, queue, inFlight, nextId⟩
  cases phase <;> cases inFlight <;> cases queue <;> simp [drive, eq_comm, and_assoc]

theorem complete_eq_some_iff (jobs : JobQueue) (id : Nat) (outcome : Outcome)
    (done : Completion) :
    jobs.complete id outcome = some done ↔ ∃ ticket, jobs.inFlight = some ticket ∧
      ticket.job.id = id ∧ done = ⟨{ jobs with
        phase := if jobs.phase = .busy then .ready else jobs.phase
        inFlight := none }, ticket.job, ticket.resolve outcome⟩ := by
  unfold complete
  cases flying : jobs.inFlight with
  | none => simp
  | some ticket =>
      by_cases same : ticket.job.id = id
      · simp [same, eq_comm]
      · simp [same]

theorem complete_eq_none_iff (jobs : JobQueue) (id : Nat) (outcome : Outcome) :
    jobs.complete id outcome = none ↔ jobs.inFlightId ≠ some id := by
  unfold complete inFlightId
  cases jobs.inFlight with
  | none => simp
  | some ticket => by_cases same : ticket.job.id = id <;> simp [same]

theorem mem_outstanding {jobs : JobQueue} {ticket : Ticket} :
    ticket ∈ jobs.outstanding ↔ jobs.inFlight = some ticket ∨ ticket ∈ jobs.queue := by
  rw [outstanding, List.mem_append, Option.mem_toList]

/-- A submission puts no ticket into the queue but its own. -/
theorem submit_queue (jobs : JobQueue) (request : Request) (waiter : Option Waiter)
    {other : Ticket} (queued : other ∈ (jobs.submit request waiter).jobs.queue) :
    other ∈ jobs.queue ∨ (jobs.phase ≠ .exited ∧ other = jobs.ticket request waiter) := by
  have submits := jobs.submit_cases request waiter
  generalize jobs.submit request waiter = submission at submits queued
  cases submits with
  | refused => exact Or.inl queued
  | replaced present uri front old back key split oldKey found =>
      rw [split]
      rcases List.mem_append.mp queued with ahead | rest
      · exact Or.inl (List.mem_append_left _ ahead)
      · rcases List.mem_cons.mp rest with same | behind
        · exact Or.inr ⟨present, same⟩
        · exact Or.inl (List.mem_append_right _ (List.mem_cons_of_mem _ behind))
  | appended present alone =>
      rcases List.mem_append.mp queued with earlier | now
      · exact Or.inl earlier
      · exact Or.inr ⟨present, List.mem_singleton.mp now⟩

/-- A submission makes no ticket outstanding but its own. -/
theorem submit_outstanding (jobs : JobQueue) (request : Request) (waiter : Option Waiter)
    {other : Ticket} (listed : other ∈ (jobs.submit request waiter).jobs.outstanding) :
    other ∈ jobs.outstanding ∨ (jobs.phase ≠ .exited ∧ other = jobs.ticket request waiter) := by
  rw [mem_outstanding] at listed ⊢
  rcases listed with flying | queued
  · exact Or.inl (Or.inl ((jobs.submit_frame request waiter).2 ▸ flying))
  · exact (jobs.submit_queue request waiter queued).imp_left Or.inr

/-! ## The representation invariant -/

/-- Something new may stand in the place of any one of distinct things. -/
theorem nodup_exchange {α : Type} {front back : List α} {old new : α}
    (distinct : (front ++ old :: back).Nodup) (fresh : new ∉ front ++ old :: back) :
    (front ++ new :: back).Nodup := by
  rw [List.nodup_middle] at distinct ⊢
  refine List.nodup_cons.mpr ⟨?_, (List.nodup_cons.mp distinct).2⟩
  intro member
  apply fresh
  rcases List.mem_append.mp member with before | after
  · exact List.mem_append_left _ before
  · exact List.mem_append_right _ (List.mem_cons_of_mem _ after)

/-- What holds of the queue whatever was done to it.  The bounds on identifiers
are kept for the sake of `distinct`: a new job has an identifier that no older
one can have. -/
structure Valid (jobs : JobQueue) : Prop where
  /-- A job is in flight exactly in the phase that says so. -/
  busy : jobs.phase = .busy ↔ jobs.inFlight.isSome = true
  /-- Nothing waits for a compiler that is gone. -/
  gone : jobs.phase = .exited → jobs.queue = []
  counted : 1 ≤ jobs.nextId
  ids : ∀ ticket ∈ jobs.outstanding, 1 ≤ ticket.job.id ∧ ticket.job.id < jobs.nextId
  distinct : (jobs.outstanding.map (·.job.id)).Nodup
  /-- At most one queued job would recompile a document. -/
  keys : (jobs.queue.filterMap Ticket.coalesceKey).Nodup

theorem initial_valid : initial.Valid :=
  ⟨by decide, fun _ => rfl, Nat.le_refl 1, fun _ member => absurd member List.not_mem_nil,
    List.nodup_nil, List.nodup_nil⟩

namespace Valid

variable {jobs : JobQueue} (valid : jobs.Valid)

include valid

theorem inFlight_of_exited (exited : jobs.phase = .exited) : jobs.inFlight = none := by
  cases flying : jobs.inFlight with
  | none => rfl
  | some ticket =>
      have busy := valid.busy.mpr (by rw [flying]; rfl)
      rw [exited] at busy
      cases busy

theorem outstanding_of_exited (exited : jobs.phase = .exited) : jobs.outstanding = [] := by
  rw [outstanding, valid.inFlight_of_exited exited, valid.gone exited]
  rfl

/-- The identifier of the next ticket is not in use. -/
theorem nextId_not_mem : jobs.nextId ∉ jobs.outstanding.map (·.job.id) := by
  intro member
  rcases List.mem_map.mp member with ⟨ticket, listed, same⟩
  have bound := (valid.ids ticket listed).2
  omega

theorem abandon (phase : Phase) (idle : phase ≠ .busy) : (jobs.abandon phase).jobs.Valid where
  busy := ⟨fun same => absurd same idle, fun flying => nomatch flying⟩
  gone := fun _ => rfl
  counted := valid.counted
  ids := fun _ member => absurd member List.not_mem_nil
  distinct := List.nodup_nil
  keys := List.nodup_nil

theorem markReady : jobs.markReady.1.Valid := by
  unfold JobQueue.markReady
  by_cases waiting : jobs.phase = .notReady
  · rw [if_pos waiting]
    have idle : jobs.inFlight.isSome = false := by
      cases flying : jobs.inFlight.isSome with
      | false => rfl
      | true =>
          have busy := valid.busy.mpr flying
          rw [waiting] at busy
          cases busy
    have free : Phase.ready = .busy ↔ jobs.inFlight.isSome = true := by
      rw [idle]
      decide
    exact ⟨free, (nomatch ·), valid.counted, valid.ids, valid.distinct, valid.keys⟩
  · rw [if_neg waiting]
    exact valid

theorem drive {job : Job} {next : JobQueue} (driven : jobs.drive = some (job, next)) :
    next.Valid := by
  rcases (jobs.drive_eq_some_iff next job).mp driven with ⟨ticket, rest, _, idle, split, _, rfl⟩
  have same : jobs.outstanding = ticket :: rest := by
    rw [outstanding, idle, split]
    rfl
  have ids := valid.ids
  have distinct := valid.distinct
  have keys := valid.keys
  rw [same] at ids distinct
  rw [split] at keys
  refine ⟨⟨fun _ => rfl, fun _ => rfl⟩, (nomatch ·), valid.counted, ids, distinct, ?_⟩
  exact keys.sublist ((List.sublist_cons_self ticket rest).filterMap _)

theorem complete {id : Nat} {outcome : Outcome} {done : Completion}
    (completed : jobs.complete id outcome = some done) : done.jobs.Valid := by
  rcases (jobs.complete_eq_some_iff id outcome done).mp completed with ⟨ticket, flying, _, rfl⟩
  have busy : jobs.phase = .busy := valid.busy.mpr (by rw [flying]; rfl)
  have queued : ∀ other ∈ jobs.queue, other ∈ jobs.outstanding :=
    fun other member => mem_outstanding.mpr (Or.inr member)
  simp only [if_pos busy]
  refine ⟨⟨(nomatch ·), (nomatch ·)⟩, (nomatch ·), valid.counted,
    fun other member => valid.ids other (queued other member), ?_, valid.keys⟩
  exact valid.distinct.sublist ((List.sublist_append_right _ _).map _)

theorem submit_ids (request : Request) (waiter : Option Waiter) :
    ∀ other ∈ (jobs.submit request waiter).jobs.outstanding,
      1 ≤ other.job.id ∧ other.job.id < (jobs.submit request waiter).jobs.nextId := by
  intro other listed
  rcases jobs.submit_outstanding request waiter listed with earlier | ⟨running, rfl⟩
  · have bound := valid.ids other earlier
    exact ⟨bound.1, Nat.lt_of_lt_of_le bound.2 (jobs.nextId_le_submit request waiter)⟩
  · rw [jobs.submit_nextId request waiter running]
    exact ⟨valid.counted, Nat.lt_succ_self _⟩

theorem submit (request : Request) (waiter : Option Waiter) :
    (jobs.submit request waiter).jobs.Valid := by
  have fresh := valid.nextId_not_mem
  have counted := Nat.le_trans valid.counted (jobs.nextId_le_submit request waiter)
  have ids := valid.submit_ids request waiter
  have cases := jobs.submit_cases request waiter
  generalize jobs.submit request waiter = submission at cases counted ids
  cases cases with
  | refused => exact valid
  | replaced running uri front old back key split oldKey found =>
      have distinct := valid.distinct
      have keys := valid.keys
      simp only [outstanding, split, List.map_append, List.map_cons] at distinct fresh
      simp only [split, List.filterMap_append, List.filterMap_cons, oldKey] at keys
      refine ⟨valid.busy, fun exited => absurd exited running, counted, ids, ?_, ?_⟩
      · simp only [outstanding, List.map_append, List.map_cons]
        rw [← List.append_assoc] at distinct fresh ⊢
        exact nodup_exchange distinct fresh
      · simp only [List.filterMap_append, List.filterMap_cons, key]
        exact keys
  | appended running alone =>
      have queued : (jobs.outstanding ++ [jobs.ticket request waiter]) =
          jobs.inFlight.toList ++ (jobs.queue ++ [jobs.ticket request waiter]) :=
        List.append_assoc _ _ _
      refine ⟨valid.busy, fun exited => absurd exited running, counted, ids, ?_, ?_⟩
      · change ((jobs.inFlight.toList ++ (jobs.queue ++ [jobs.ticket request waiter])).map
          (·.job.id)).Nodup
        rw [← queued, List.map_append, List.nodup_append]
        refine ⟨valid.distinct, List.nodup_singleton _, ?_⟩
        intro first member second last same
        rw [List.map_singleton, List.mem_singleton] at last
        rw [same, last] at member
        exact fresh member
      · rw [List.filterMap_append, List.nodup_append]
        refine ⟨valid.keys, ?_, ?_⟩
        · cases key : (jobs.ticket request waiter).coalesceKey <;> simp [key]
        · intro first member second last same
          rcases List.mem_filterMap.mp member with ⟨other, listed, read⟩
          have key : (jobs.ticket request waiter).coalesceKey = some second := by
            simpa using last
          exact alone second key other listed (same ▸ read)

end Valid
end JobQueue
end CompilerRelay
