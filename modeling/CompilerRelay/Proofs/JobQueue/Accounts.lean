import CompilerRelay.Proofs.JobQueue.Operation
import CompilerRelay.Number.Word
import Mathlib.Data.List.Pairwise

/-!
# What becomes of every job

A queue knows the jobs that wait and the one in flight, and forgets all others.
The `journal` of a history keeps what the queue forgets: which jobs were
accepted, which gave way to another, and how the others ended.  Its entries are
read off the operations from outside.  A job is superseded if it is gone from
the queue after a submission, and it failed if it is no longer outstanding
after the compiler was lost.

Every operation obeys one law (`balance`): what was outstanding or is accepted
is outstanding afterwards or has ended.  Summed up over a history it says that
each job that was accepted has one fate, and only one.
-/

namespace CompilerRelay

theorem Request.category_eq_recompile_iff {request : Request} :
    request.kind.category = .recompile ↔ ∃ uri, request.coalesceKey = some uri := by
  cases request <;> simp [kind, coalesceKey, JobKind.category]

namespace JobQueue

/-- What is written down about a job.  Entries are read off the queue before and
after an operation, not off what its waiters are told, so jobs without waiters
are accounted for too. -/
inductive Entry where
  | accepted (job : Job)
  /-- A queued job gave way to one that was accepted. -/
  | superseded (old new : Job)
  | completed (job : Job)
  | failed (job : Job)
  deriving DecidableEq, Repr

namespace Entry

def accepted? : Entry → Option Job
  | accepted job => some job
  | _ => none

def superseded? : Entry → Option Job
  | superseded old _ => some old
  | _ => none

def completed? : Entry → Option Job
  | completed job => some job
  | _ => none

def failed? : Entry → Option Job
  | failed job => some job
  | _ => none

/-- The jobs that have ended, by the way in which they did. -/
def ended (entries : List Entry) : List Job :=
  entries.filterMap superseded? ++ (entries.filterMap completed? ++ entries.filterMap failed?)

theorem ended_append (early late : List Entry) :
    (ended (early ++ late)).Perm (ended early ++ ended late) := by
  rw [List.perm_iff_count]
  intro job
  simp only [ended, List.filterMap_append, List.count_append]
  omega

theorem accepted_failed (tickets : List Ticket) :
    (tickets.map (failed ·.job)).filterMap accepted? = [] := by
  rw [List.filterMap_map]
  exact List.filterMap_eq_nil_iff.mpr fun _ _ => rfl

theorem filterMap_failed (tickets : List Ticket) :
    (tickets.map (failed ·.job)).filterMap failed? = tickets.map (·.job) := by
  rw [List.filterMap_map]
  exact List.filterMap_eq_map ▸ rfl

theorem ended_failed (tickets : List Ticket) :
    ended (tickets.map (failed ·.job)) = tickets.map (·.job) := by
  have none : ∀ pick : Entry → Option Job, (∀ job, pick (failed job) = none) →
      (tickets.map (failed ·.job)).filterMap pick = [] := by
    intro pick skips
    rw [List.filterMap_map]
    exact List.filterMap_eq_nil_iff.mpr fun ticket _ => skips ticket.job
  rw [ended, none superseded? fun _ => rfl, none completed? fun _ => rfl, filterMap_failed]
  rfl

end Entry

/-- The tickets that are listed before and not after. -/
def missing (before after : List Ticket) : List Ticket :=
  before.filter (· ∉ after)

/-- What is written down about an operation. -/
def entries (jobs : JobQueue) : Operation → List Entry
  | .submit request waiter =>
    let submission := jobs.submit request waiter
    match submission.id with
    | some id => .accepted ⟨id, request⟩ ::
        (missing jobs.queue submission.jobs.queue).map (.superseded ·.job ⟨id, request⟩)
    | none => []
  | .complete id outcome => (jobs.complete id outcome).toList.map (.completed ·.job)
  | .exit => (missing jobs.outstanding jobs.exit.jobs.outstanding).map (.failed ·.job)
  | .restart => (missing jobs.outstanding jobs.restart.jobs.outstanding).map (.failed ·.job)
  | .drive => []
  | .markReady => []

/-- What is written down about a history, in order. -/
def journal (jobs : JobQueue) : List Operation → List Entry
  | [] => []
  | operation :: rest => jobs.entries operation ++ (jobs.perform operation).1.journal rest

@[simp] theorem journal_append (jobs : JobQueue) (early late : List Operation) :
    jobs.journal (early ++ late) =
      jobs.journal early ++ (jobs.performAll early).1.journal late := by
  induction early generalizing jobs with
  | nil => rfl
  | cons operation rest inductionHypothesis =>
      simp only [List.cons_append, journal, performAll, inductionHypothesis, List.append_assoc]

theorem journal_concat (jobs : JobQueue) (history : List Operation) (last : Operation) :
    jobs.journal (history ++ [last]) =
      jobs.journal history ++ (jobs.performAll history).1.entries last := by
  rw [journal_append]
  simp only [journal, List.append_nil]

@[simp] theorem missing_nil (before : List Ticket) : missing before [] = before :=
  List.filter_eq_self.mpr fun _ _ => decide_eq_true List.not_mem_nil

/-- Nothing is missing from a list that is only longer. -/
theorem missing_append (before more : List Ticket) : missing before (before ++ more) = [] := by
  apply List.filter_eq_nil_iff.mpr
  intro ticket listed
  rw [decide_eq_true_iff, not_not]
  exact List.mem_append_left _ listed

/-- Of distinct tickets only the one is missing that gave up its place. -/
theorem missing_exchange {front back : List Ticket} {old new : Ticket}
    (distinct : (front ++ old :: back).Nodup) (other : old ≠ new) :
    missing (front ++ old :: back) (front ++ new :: back) = [old] := by
  have alone := (List.nodup_cons.mp (List.nodup_middle.mp distinct)).1
  have stay : ∀ tickets, tickets ⊆ front ++ back →
      missing tickets (front ++ new :: back) = [] := by
    intro tickets among
    apply List.filter_eq_nil_iff.mpr
    intro ticket listed
    rw [decide_eq_true_iff, not_not]
    rcases List.mem_append.mp (among listed) with ahead | behind
    · exact List.mem_append_left _ ahead
    · exact List.mem_append_right _ (List.mem_cons_of_mem _ behind)
  have gone : old ∉ front ++ new :: back := by
    intro listed
    rcases List.mem_append.mp listed with ahead | behind
    · exact alone (List.mem_append_left _ ahead)
    · rcases List.mem_cons.mp behind with same | behind
      · exact other same
      · exact alone (List.mem_append_right _ behind)
  have apart : missing (old :: back) (front ++ new :: back) =
      old :: missing back (front ++ new :: back) :=
    List.filter_cons_of_pos (decide_eq_true gone)
  calc missing (front ++ old :: back) (front ++ new :: back)
      = missing front (front ++ new :: back) ++ missing (old :: back) (front ++ new :: back) :=
        List.filter_append _ _
    _ = [old] := by
        rw [apart, stay front (List.subset_append_left _ _),
          stay back (List.subset_append_right _ _), List.nil_append]

/-! ## One operation -/

/-- What an operation writes down, and the queue after it.  There is one
constructor for each way in which the set of outstanding jobs can change, and
one for all that leaves it. -/
inductive Writes (jobs : JobQueue) : Operation → List Entry → JobQueue → Prop
  | refused {request : Request} {waiter : Option Waiter} (gone : jobs.phase = .exited) :
      Writes jobs (.submit request waiter) [] jobs
  | replaced {request : Request} {waiter : Option Waiter} {uri : Uri} {front back : List Ticket}
      {old : Ticket} (running : jobs.phase ≠ .exited) (split : jobs.queue = front ++ old :: back)
      (key : request.coalesceKey = some uri) (oldKey : old.coalesceKey = some uri) :
      Writes jobs (.submit request waiter)
        [.accepted ⟨jobs.nextId, request⟩, .superseded old.job ⟨jobs.nextId, request⟩]
        { jobs with
          nextId := jobs.nextId + 1
          queue := front ++ jobs.ticket request waiter :: back }
  | appended {request : Request} {waiter : Option Waiter} (running : jobs.phase ≠ .exited) :
      Writes jobs (.submit request waiter) [.accepted ⟨jobs.nextId, request⟩] { jobs with
        nextId := jobs.nextId + 1
        queue := jobs.queue ++ [jobs.ticket request waiter] }
  /-- A job is taken, or nothing happens to any job. -/
  | moved {operation : Operation} {next : JobQueue} (silent : operation.request? = none)
      (same : next.outstanding = jobs.outstanding) (nextId : next.nextId = jobs.nextId) :
      Writes jobs operation [] next
  | completed {id : Nat} {outcome : Outcome} {phase : Phase} {ticket : Ticket}
      (flying : jobs.inFlight = some ticket) (own : ticket.job.id = id) :
      Writes jobs (.complete id outcome) [.completed ticket.job]
        { jobs with phase := phase, inFlight := none }
  | failed {operation : Operation} {phase : Phase} (abandons : operation.abandons = true) :
      Writes jobs operation (jobs.outstanding.map (.failed ·.job)) (jobs.abandon phase).jobs

theorem entries_of_abandons (jobs : JobQueue) {operation : Operation}
    (abandons : operation.abandons = true) :
    jobs.entries operation = jobs.outstanding.map (.failed ·.job) := by
  cases operation with
  | exit => exact congrArg _ (missing_nil jobs.outstanding)
  | restart => exact congrArg _ (missing_nil jobs.outstanding)
  | _ => cases abandons

theorem Valid.queue_nodup {jobs : JobQueue} (valid : jobs.Valid) : jobs.queue.Nodup :=
  (List.Nodup.of_map _ valid.distinct).of_append_right

theorem Valid.submit_writes {jobs : JobQueue} (valid : jobs.Valid) (request : Request)
    (waiter : Option Waiter) : Writes jobs (.submit request waiter)
      (jobs.entries (.submit request waiter)) (jobs.submit request waiter).jobs := by
  have submits := jobs.submit_cases request waiter
  simp only [entries]
  generalize jobs.submit request waiter = submission at submits
  cases submits with
  | refused gone => exact .refused gone
  | replaced running uri front old back key split oldKey found =>
      have distinct := valid.queue_nodup
      have fresh : old ≠ jobs.ticket request waiter := by
        intro same
        have queued : old ∈ jobs.queue := split ▸ List.mem_append_right _ List.mem_cons_self
        have bound := (valid.ids old (mem_outstanding.mpr (Or.inr queued))).2
        rw [same] at bound
        exact Nat.lt_irrefl _ bound
      rw [split] at distinct
      simp only [split, missing_exchange distinct fresh]
      exact .replaced running split key oldKey
  | appended running alone =>
      simp only [missing_append]
      exact .appended running

theorem Valid.writes {jobs : JobQueue} (valid : jobs.Valid) (operation : Operation) :
    Writes jobs operation (jobs.entries operation) (jobs.perform operation).1 := by
  cases operation with
  | submit request waiter => exact valid.submit_writes request waiter
  | drive =>
      cases driven : jobs.drive with
      | none =>
          rw [perform_drive_of_rest ((jobs.drive_eq_none_iff).mp driven)]
          exact .moved rfl rfl rfl
      | some taken =>
          rcases (jobs.drive_eq_some_iff taken.2 taken.1).mp driven with
            ⟨ticket, rest, ready, free, split, _⟩
          rw [perform_drive_of_ready ready free split]
          refine .moved rfl ?_ rfl
          rw [outstanding, outstanding, free, split]
          rfl
  | complete id outcome =>
      cases completed : jobs.complete id outcome with
      | none =>
          simp only [perform, entries, completed]
          exact .moved rfl rfl rfl
      | some done =>
          rcases (jobs.complete_eq_some_iff id outcome done).mp completed with
            ⟨ticket, flying, own, rfl⟩
          simp only [perform, entries, completed]
          exact .completed flying own
  | markReady =>
      by_cases waiting : jobs.phase = .notReady
      · simp only [perform, JobQueue.markReady, if_pos waiting]
        exact .moved rfl rfl rfl
      · simp only [perform, JobQueue.markReady, if_neg waiting]
        exact .moved rfl rfl rfl
  | exit =>
      rw [jobs.entries_of_abandons rfl]
      exact .failed rfl
  | restart =>
      rw [jobs.entries_of_abandons rfl]
      exact .failed rfl

/-- It does not matter which of two things is in the middle and which one apart. -/
theorem perm_exchange {α : Type} (front back : List α) (old new : α) :
    ((front ++ old :: back) ++ [new]).Perm ((front ++ new :: back) ++ [old]) :=
  calc (front ++ old :: back) ++ [new]
      _ |>.Perm (new :: (front ++ old :: back)) := List.perm_append_singleton _ _
      _ |>.Perm (new :: old :: (front ++ back)) := List.perm_middle.cons new
      _ |>.Perm (old :: new :: (front ++ back)) := .swap _ _ _
      _ |>.Perm (old :: (front ++ new :: back)) := List.perm_middle.symm.cons old
      _ |>.Perm ((front ++ new :: back) ++ [old]) := (List.perm_append_singleton _ _).symm

/-- What was outstanding or is accepted is outstanding afterwards or has ended. -/
theorem Writes.balance {jobs next : JobQueue} {operation : Operation} {written : List Entry}
    (writes : Writes jobs operation written next) :
    (jobs.outstanding.map (·.job) ++ written.filterMap Entry.accepted?).Perm
      (next.outstanding.map (·.job) ++ Entry.ended written) := by
  cases writes with
  | refused => exact List.Perm.refl _
  | @replaced request waiter uri front back old running split key oldKey =>
      have before : jobs.outstanding.map (·.job) = (jobs.inFlight.toList ++ front).map (·.job) ++
          old.job :: back.map (·.job) := by
        rw [outstanding, split, ← List.append_assoc, List.map_append, List.map_cons]
      have after : (jobs.inFlight.toList ++ (front ++ jobs.ticket request waiter :: back)).map
          (·.job) = (jobs.inFlight.toList ++ front).map (·.job) ++
            ⟨jobs.nextId, request⟩ :: back.map (·.job) := by
        rw [← List.append_assoc, List.map_append, List.map_cons]
        rfl
      rw [before]
      exact after ▸ perm_exchange _ _ old.job ⟨jobs.nextId, request⟩
  | @appended request waiter running =>
      have after : (jobs.inFlight.toList ++ (jobs.queue ++ [jobs.ticket request waiter])).map
          (·.job) = jobs.outstanding.map (·.job) ++ [⟨jobs.nextId, request⟩] := by
        rw [← List.append_assoc, List.map_append]
        rfl
      exact .of_eq (after.symm.trans (List.append_nil _).symm)
  | moved _ same =>
      rw [same]
      exact List.Perm.refl _
  | @completed _ _ _ ticket flying own =>
      have before : jobs.outstanding.map (·.job) = ticket.job :: jobs.queue.map (·.job) := by
        rw [outstanding, flying]
        rfl
      rw [before]
      exact (List.append_nil _).symm ▸ (List.perm_append_singleton _ _).symm
  | failed =>
      rw [Entry.accepted_failed, Entry.ended_failed, List.append_nil]
      exact List.Perm.refl _

/-- A submission that is accepted uses up the next identifier, and nothing else
uses up any. -/
theorem Writes.accepted_cases {jobs next : JobQueue} {operation : Operation}
    {written : List Entry} (writes : Writes jobs operation written next) :
    (written.filterMap Entry.accepted? = [] ∧ next.nextId = jobs.nextId ∧
      (operation.request? = none ∨ jobs.phase = .exited)) ∨
        ∃ request, operation.request? = some request ∧ jobs.phase ≠ .exited ∧
          written.filterMap Entry.accepted? = [⟨jobs.nextId, request⟩] ∧
            next.nextId = jobs.nextId + 1 := by
  cases writes with
  | refused gone => exact Or.inl ⟨rfl, rfl, Or.inr gone⟩
  | replaced running => exact Or.inr ⟨_, rfl, running, rfl, rfl⟩
  | appended running => exact Or.inr ⟨_, rfl, running, rfl, rfl⟩
  | moved silent _ nextId => exact Or.inl ⟨rfl, nextId, Or.inl silent⟩
  | completed => exact Or.inl ⟨rfl, rfl, Or.inl rfl⟩
  | failed abandons =>
      refine Or.inl ⟨Entry.accepted_failed _, rfl, Or.inl ?_⟩
      cases operation with
      | submit => cases abandons
      | _ => rfl

theorem Writes.completed_flying {jobs next : JobQueue} {operation : Operation}
    {written : List Entry} (writes : Writes jobs operation written next) {job : Job}
    (listed : .completed job ∈ written) :
    ∃ ticket, jobs.inFlight = some ticket ∧ ticket.job = job := by
  cases writes with
  | completed flying =>
      cases List.mem_singleton.mp listed
      exact ⟨_, flying, rfl⟩
  | failed =>
      rcases List.mem_map.mp listed with ⟨_, _, impossible⟩
      cases impossible
  | _ => simp at listed

/-- Only a queued job about the same document gives way to the one submitted. -/
theorem Writes.superseded_queued {jobs next : JobQueue} {operation : Operation}
    {written : List Entry} (writes : Writes jobs operation written next) {old new : Job}
    (listed : .superseded old new ∈ written) :
    ∃ waiter uri, operation = .submit new.request waiter ∧ jobs.phase ≠ .exited ∧
      new.id = jobs.nextId ∧ old ∈ jobs.queue.map (·.job) ∧
        old.request.coalesceKey = some uri ∧ new.request.coalesceKey = some uri := by
  cases writes with
  | @replaced request waiter uri front back ticket running split key oldKey =>
      have queued : ticket ∈ jobs.queue := split ▸ List.mem_append_right _ List.mem_cons_self
      rcases List.mem_cons.mp listed with impossible | listed
      · cases impossible
      · cases List.mem_singleton.mp listed
        exact ⟨waiter, uri, rfl, running, rfl, List.mem_map_of_mem queued, oldKey, key⟩
  | failed =>
      rcases List.mem_map.mp listed with ⟨_, _, impossible⟩
      cases impossible
  | _ => simp at listed

/-! ## A history -/

/-- The queue after a history. -/
def reached (history : List Operation) : JobQueue :=
  (initial.performAll history).1

def accepted (history : List Operation) : List Job :=
  (initial.journal history).filterMap Entry.accepted?

/-- What can have become of a job that was accepted.  The first two are not
final, and each of the others is. -/
inductive Fate where
  | queued
  | flying
  | superseded
  | completed
  | failed
  deriving DecidableEq, Repr

namespace Fate

def all : List Fate :=
  [queued, flying, superseded, completed, failed]

/-- The jobs that a fate has overtaken after a history. -/
def jobs (history : List Operation) : Fate → List Job
  | queued => (reached history).queue.map (·.job)
  | flying => (reached history).inFlight.toList.map (·.job)
  | superseded => (initial.journal history).filterMap Entry.superseded?
  | completed => (initial.journal history).filterMap Entry.completed?
  | failed => (initial.journal history).filterMap Entry.failed?

end Fate

theorem reached_valid (history : List Operation) : (reached history).Valid :=
  initial_valid.performAll history

theorem reached_concat (history : List Operation) (last : Operation) :
    reached (history ++ [last]) = ((reached history).perform last).1 :=
  congrArg Prod.fst (performAll_concat initial history last)

theorem accepted_concat (history : List Operation) (last : Operation) :
    accepted (history ++ [last]) =
      accepted history ++ ((reached history).entries last).filterMap Entry.accepted? := by
  rw [accepted, journal_concat, List.filterMap_append]
  rfl

/-- The law of a history. -/
theorem outstanding_perm (history : List Operation) : (accepted history).Perm
    ((reached history).outstanding.map (·.job) ++ Entry.ended (initial.journal history)) := by
  induction history using List.reverseRecOn with
  | nil => exact List.Perm.refl _
  | append_singleton before last inductionHypothesis =>
      have balance := ((reached_valid before).writes last).balance
      have ended := Entry.ended_append (initial.journal before) ((reached before).entries last)
      rw [accepted_concat, reached_concat, journal_concat]
      rw [List.perm_iff_count] at inductionHypothesis balance ended ⊢
      intro job
      have earlier := inductionHypothesis job
      have now := balance job
      have both := ended job
      simp only [List.count_append] at earlier now both ⊢
      change _ = _ + List.count job (Entry.ended (_ ++ (reached before).entries last))
      omega

theorem fates_perm (history : List Operation) :
    (Fate.all.flatMap (·.jobs history)).Perm (accepted history) := by
  refine List.Perm.trans ?_ (outstanding_perm history).symm
  rw [List.perm_iff_count]
  intro job
  simp only [Fate.all, Fate.jobs, List.flatMap_cons, List.flatMap_nil, outstanding, Entry.ended,
    List.map_append, List.count_append, List.count_nil]
  omega

/-- Identifiers are given out one after the other, to accepted requests only. -/
theorem accepted_numbered (history : List Operation) :
    (accepted history).map (·.id) = List.range' 1 (accepted history).length ∧
      (reached history).nextId = 1 + (accepted history).length ∧
        ((accepted history).map (·.request)).Sublist (requests history) := by
  induction history using List.reverseRecOn with
  | nil => exact ⟨rfl, rfl, List.Sublist.refl _⟩
  | append_singleton before last inductionHypothesis =>
      rcases inductionHypothesis with ⟨ids, nextId, requested⟩
      rw [accepted_concat, reached_concat, requests_append]
      rcases ((reached_valid before).writes last).accepted_cases with
        ⟨none, same, _⟩ | ⟨request, said, _, one, more⟩
      · rw [none, same, List.append_nil]
        exact ⟨ids, nextId, requested.trans (List.sublist_append_left _ _)⟩
      · have asked : requests [last] = [request] := List.filterMap_cons_some said
        rw [one, more, asked, List.map_append, List.map_append, ids, List.length_append, nextId,
          List.length_singleton, List.range'_concat, Nat.one_mul]
        exact ⟨rfl, Nat.add_assoc _ _ _, requested.append (List.Sublist.refl _)⟩

theorem Performs.flying {jobs next : JobQueue} {operation : Operation} {taken : Option Job}
    (performs : Performs jobs operation next taken) {ticket : Ticket}
    (flying : next.inFlight = some ticket) :
    jobs.inFlight = some ticket ∨ taken = some ticket.job := by
  cases performs with
  | submitted request waiter => exact Or.inl ((jobs.submit_frame request waiter).2 ▸ flying)
  | taken => exact Or.inr (congrArg _ (congrArg Ticket.job (Option.some.inj flying)))
  | completed answered =>
      rcases (jobs.complete_eq_some_iff _ _ _).mp answered with ⟨_, _, _, rfl⟩
      cases flying
  | exited => cases flying
  | restarted => cases flying
  | _ => exact Or.inl flying

/-- What is in flight or completed was taken for the compiler. -/
theorem mem_taken (history : List Operation) :
    (∀ ticket, (reached history).inFlight = some ticket →
      ticket.job ∈ (initial.performAll history).2) ∧
      ∀ job ∈ Fate.completed.jobs history, job ∈ (initial.performAll history).2 := by
  induction history using List.reverseRecOn with
  | nil =>
      constructor
      · intro ticket flying
        cases flying
      · intro job listed
        cases listed
  | append_singleton before last inductionHypothesis =>
      rcases inductionHypothesis with ⟨flown, ended⟩
      rw [performAll_concat]
      constructor
      · intro ticket flying
        rw [reached_concat] at flying
        rcases ((reached before).perform_cases last).flying flying with earlier | now
        · exact List.mem_append_left _ (flown ticket earlier)
        · exact List.mem_append_right _ (Option.mem_toList.mpr now)
      · intro job listed
        apply List.mem_append_left
        rw [Fate.jobs, journal_concat, List.filterMap_append] at listed
        rcases List.mem_append.mp listed with earlier | now
        · exact ended job earlier
        · rcases List.mem_filterMap.mp now with ⟨entry, written, read⟩
          cases entry with
          | completed done =>
              cases read
              rcases ((reached_valid before).writes last).completed_flying written with
                ⟨ticket, flying, rfl⟩
              exact flown ticket flying
          | _ => cases read

/-- A queued recompilation gave way to one of the same document. -/
def GaveWay (history : List Operation) (old new : Job) : Prop :=
  ∃ before waiter, before ++ [.submit new.request waiter] <+: history ∧
    ((reached before).submit new.request waiter).id = some new.id ∧
      old ∈ Fate.queued.jobs before ∧ old.id < new.id ∧
        old.request.kind.category = .recompile ∧ new.request.kind.category = .recompile ∧
          ∃ uri, old.request.coalesceKey = some uri ∧ new.request.coalesceKey = some uri

theorem submit_id (jobs : JobQueue) (running : jobs.phase ≠ .exited) (request : Request)
    (waiter : Option Waiter) : (jobs.submit request waiter).id = some jobs.nextId := by
  have submits := jobs.submit_cases request waiter
  generalize jobs.submit request waiter = submission at submits
  cases submits with
  | refused gone => exact absurd gone running
  | _ => rfl

theorem gaveWay_of_superseded (history : List Operation) {old new : Job}
    (listed : .superseded old new ∈ initial.journal history) : GaveWay history old new := by
  induction history using List.reverseRecOn with
  | nil => cases listed
  | append_singleton before last inductionHypothesis =>
      rw [journal_concat] at listed
      rcases List.mem_append.mp listed with earlier | now
      · rcases inductionHypothesis earlier with ⟨start, waiter, inside, rest⟩
        exact ⟨start, waiter, inside.trans (List.prefix_append _ _), rest⟩
      · have valid := reached_valid before
        rcases (valid.writes last).superseded_queued now with
          ⟨waiter, uri, rfl, running, fresh, queued, oldKey, key⟩
        rcases List.mem_map.mp queued with ⟨ticket, waiting, rfl⟩
        have bound := (valid.ids ticket (mem_outstanding.mpr (Or.inr waiting))).2
        refine ⟨before, waiter, List.prefix_rfl, ?_, queued, fresh ▸ bound, ?_, ?_, uri, oldKey,
          key⟩
        · rw [fresh]
          exact submit_id _ running _ _
        · exact Request.category_eq_recompile_iff.mpr ⟨uri, oldKey⟩
        · exact Request.category_eq_recompile_iff.mpr ⟨uri, key⟩

/-- Every job that was accepted in a history is accounted for.  It has one of
five fates, and the counts of the five add up to the number of requests that
were not refused. -/
structure Accounted (history : List Operation) : Prop where
  /-- The jobs that were accepted are numbered from one on. -/
  numbered : (accepted history).map (·.id) = List.range' 1 (accepted history).length
  /-- They are some of those submitted, in order. -/
  requested : ((accepted history).map (·.request)).Sublist (requests history)
  /-- A request that is refused gets no identifier and uses up none. -/
  refused : ∀ request waiter, (reached history).phase = .exited →
    ((reached history).submit request waiter).id = none ∧
      reached (history ++ [.submit request waiter]) = reached history ∧
        accepted (history ++ [.submit request waiter]) = accepted history
  /-- Any other request gets the next one. -/
  admitted : ∀ request waiter, (reached history).phase ≠ .exited →
    ((reached history).submit request waiter).id = some (1 + (accepted history).length) ∧
      accepted (history ++ [.submit request waiter]) =
        accepted history ++ [⟨1 + (accepted history).length, request⟩]
  /-- Nothing is accepted in another way. -/
  otherwise : ∀ operation, operation.request? = none →
    accepted (history ++ [operation]) = accepted history
  /-- The fates share out the jobs. -/
  shares : (Fate.all.flatMap (·.jobs history)).Perm (accepted history)
  /-- Each identifier that was given out has one fate. -/
  single : ∀ job ∈ accepted history, ∃! fate, job.id ∈ (Fate.jobs history fate).map (·.id)
  /-- Only a job that the compiler was given is completed. -/
  completed : ∀ job ∈ Fate.completed.jobs history, job ∈ (initial.performAll history).2
  /-- Only a queued recompilation is superseded, and only by one of the same
  document that was submitted later. -/
  superseded : ∀ old new, .superseded old new ∈ initial.journal history → GaveWay history old new
  /-- Whoever gives up the jobs is told their number, and all of them fail. -/
  lost : ∀ operation, operation.abandons = true →
    Fate.failed.jobs (history ++ [operation]) = Fate.failed.jobs history ++
      (Fate.flying.jobs history ++ Fate.queued.jobs history)
  counted : let number := (Fate.queued.jobs history).length + (Fate.flying.jobs history).length
    (reached history).exit.count = number ∧ (reached history).restart.count = number
  /-- The identifiers fit in a word of 64 bits. -/
  fits : (requests history).length < Word.size 64 - 1 → (reached history).nextId < Word.size 64

/-- An accepted job has one fate, since no identifier is shared. -/
theorem fate_unique (history : List Operation) {job : Job} (listed : job ∈ accepted history) :
    ∃! fate, job.id ∈ (Fate.jobs history fate).map (·.id) := by
  have distinct : ((accepted history).map (·.id)).Nodup := by
    rw [(accepted_numbered history).1]
    exact List.nodup_range'
  have shares := (fates_perm history).map (·.id)
  rw [List.map_flatMap] at shares
  have apart := (List.nodup_flatMap.mp (shares.nodup_iff.mpr distinct)).2
  have every : ∀ fate : Fate, fate ∈ Fate.all := fun fate => by cases fate <;> decide
  rcases List.mem_flatMap.mp (shares.mem_iff.mpr (List.mem_map_of_mem listed)) with
    ⟨fate, _, overtaken⟩
  refine ⟨fate, overtaken, fun other too => ?_⟩
  have symmetric : Std.Symm (Function.onFun List.Disjoint
      fun fate : Fate => (fate.jobs history).map (·.id)) :=
    ⟨fun _ _ disjoint _ left right => disjoint right left⟩
  by_contra different
  exact apart.forall (every other) (every fate) different too overtaken

theorem length_outstanding (history : List Operation) : (reached history).outstanding.length =
    (Fate.queued.jobs history).length + (Fate.flying.jobs history).length := by
  rw [outstanding, List.length_append, Fate.jobs, Fate.jobs, List.length_map, List.length_map,
    Nat.add_comm]

/-- No job is lost or counted twice, whatever is done to the queue. -/
theorem accounted (history : List Operation) : Accounted history where
  numbered := (accepted_numbered history).1
  requested := (accepted_numbered history).2.2
  refused := by
    intro request waiter gone
    have refusal := (reached history).submit_of_exited gone request waiter
    refine ⟨congrArg Submission.id refusal, ?_, ?_⟩
    · rw [reached_concat]
      exact congrArg Submission.jobs refusal
    · rw [accepted_concat]
      rcases ((reached_valid history).writes (.submit request waiter)).accepted_cases with
        ⟨none, _⟩ | ⟨_, _, running, _⟩
      · rw [none, List.append_nil]
      · exact absurd gone running
  admitted := by
    intro request waiter running
    rw [accepted_concat, submit_id _ running, ← (accepted_numbered history).2.1]
    refine ⟨rfl, ?_⟩
    rcases ((reached_valid history).writes (.submit request waiter)).accepted_cases with
      ⟨_, _, silent | gone⟩ | ⟨_, said, _, one, _⟩
    · cases silent
    · exact absurd gone running
    · cases said
      rw [one]
  otherwise := by
    intro operation silent
    rcases ((reached_valid history).writes operation).accepted_cases with
      ⟨none, _⟩ | ⟨request, said, _⟩
    · rw [accepted_concat, none, List.append_nil]
    · rw [silent] at said
      cases said
  shares := fates_perm history
  single _ listed := fate_unique history listed
  completed := (mem_taken history).2
  superseded _ _ written := gaveWay_of_superseded history written
  lost := by
    intro operation abandons
    calc Fate.failed.jobs (history ++ [operation])
        = Fate.failed.jobs history ++
            ((reached history).entries operation).filterMap Entry.failed? := by
          simp only [Fate.jobs, journal_concat, List.filterMap_append]
          rfl
      _ = Fate.failed.jobs history ++ (reached history).outstanding.map (·.job) := by
          rw [entries_of_abandons _ abandons, Entry.filterMap_failed]
      _ = _ := congrArg _ List.map_append
  counted := ⟨length_outstanding history, length_outstanding history⟩
  fits := by
    intro few
    have fewer := (accepted_numbered history).2.2.length_le
    have nextId := (accepted_numbered history).2.1
    rw [List.length_map] at fewer
    omega

/-- A save takes the place of a change and is completed, after an answer to no
job.  Two jobs are lost with the compiler, and a third request is refused. -/
theorem accounted_of_lost_compiler :
    let text : Snapshot := ⟨⟨"a"⟩, 1, "text"⟩
    let ask : Operation := .submit (.hover ⟨⟨"b"⟩, ⟨0, 0⟩⟩) none
    let history : List Operation := [.submit (.documentChanged text) none,
      .submit (.documentSaved text) none, .markReady, .drive, .complete 1 (.ok .null),
      .complete 2 (.ok .null), ask, .drive, ask, .exit, ask, .restart, ask]
    Accounted history ∧ (Fate.all.map fun fate => (fate.jobs history).map (·.id)) =
      [[5], [], [1], [2], [3, 4]] :=
  ⟨accounted _, by decide⟩

end JobQueue
end CompilerRelay
