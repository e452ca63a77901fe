import CompilerRelay.Proofs.JobQueue.Operation

/-!
# The latest text of a document is not lost

A request to recompile a document replaces a queued one for the same document,
and never the one in flight.  Whatever the order of the operations, the jobs
about one document that are taken for the compiler are therefore some of those
submitted for it, in the order of submission, and the last one submitted is
among them as soon as nothing waits.

The invariant speaks of the `course`: the jobs that were taken, and behind
them those that wait.  `Keeps` compares what the course holds about a document
with what was submitted about it.  A replacement exchanges the last of these
jobs, because at most one that waits is about the document.
-/

namespace CompilerRelay

/-- Whether a job would recompile a document. -/
def Job.isAbout (uri : Uri) (job : Job) : Bool :=
  decide (job.request.coalesceKey = some uri)

theorem Job.isAbout_iff {uri : Uri} {job : Job} :
    job.isAbout uri = true ↔ job.request.coalesceKey = some uri :=
  decide_eq_true_iff

/-- A job is about one document at most. -/
theorem Job.uri_unique {job : Job} {uri other : Uri} (about : job.isAbout uri = true)
    (same : job.isAbout other = true) : uri = other :=
  Option.some.inj ((isAbout_iff.mp about).symm.trans (isAbout_iff.mp same))

/-- Some of the jobs that were submitted are left, in order, and the last one
is. -/
structure Keeps (submitted left : List Job) : Prop where
  order : left.Sublist submitted
  latest : left.getLast? = submitted.getLast?

/-- Whatever precedes it, a job that is submitted now is the last one. -/
theorem keeps_concat {submitted left : List Job} (order : left.Sublist submitted) (job : Job) :
    Keeps (submitted ++ [job]) (left ++ [job]) where
  order := order.append (List.Sublist.refl [job])
  latest := by rw [List.getLast?_concat, List.getLast?_concat]

namespace JobQueue

/-- The jobs that were taken, and behind them those that wait. -/
def course (taken : List Job) (jobs : JobQueue) : List Job :=
  taken ++ jobs.queue.map (·.job)

/-- Nothing beside a queued job about a document is about the document. -/
theorem Valid.filter_queue {jobs : JobQueue} (valid : jobs.Valid) {front back : List Ticket}
    {ticket : Ticket} {uri : Uri} (split : jobs.queue = front ++ ticket :: back)
    (key : ticket.coalesceKey = some uri) :
    (front.map (·.job)).filter (·.isAbout uri) = [] ∧
      (back.map (·.job)).filter (·.isAbout uri) = [] := by
  have keys := valid.keys
  rw [split, List.filterMap_append, List.filterMap_cons_some key, List.nodup_middle] at keys
  have alone := (List.nodup_cons.mp keys).1
  have absent : ∀ others : List Ticket, uri ∉ others.filterMap Ticket.coalesceKey →
      (others.map (·.job)).filter (·.isAbout uri) = [] := by
    intro others missing
    apply List.filter_eq_nil_iff.mpr
    intro job listed about
    rcases List.mem_map.mp listed with ⟨other, member, rfl⟩
    exact missing (List.mem_filterMap.mpr ⟨other, member, Job.isAbout_iff.mp about⟩)
  exact ⟨absent front fun member => alone (List.mem_append_left _ member),
    absent back fun member => alone (List.mem_append_right _ member)⟩

/-- A submission keeps what is owed to each document. -/
theorem keeps_submit {jobs : JobQueue} (valid : jobs.Valid) (running : jobs.phase ≠ .exited)
    {uri : Uri} {taken submitted : List Job}
    (keeps : Keeps submitted ((course taken jobs).filter (·.isAbout uri)))
    (request : Request) (waiter : Option Waiter) :
    Keeps (submitted ++ [(⟨jobs.nextId, request⟩ : Job)].filter (·.isAbout uri))
      ((course taken (jobs.submit request waiter).jobs).filter (·.isAbout uri)) := by
  have submits := jobs.submit_cases request waiter
  generalize jobs.submit request waiter = submission at submits
  cases submits with
  | refused gone => exact absurd gone running
  | appended _ alone =>
      have whole : course taken { jobs with
          nextId := jobs.nextId + 1
          queue := jobs.queue ++ [jobs.ticket request waiter] } =
            course taken jobs ++ [⟨jobs.nextId, request⟩] := by
        rw [course, List.map_append, ← List.append_assoc]
        rfl
      rw [whole, List.filter_append]
      by_cases about : (⟨jobs.nextId, request⟩ : Job).isAbout uri = true
      · rw [List.filter_cons_of_pos about, List.filter_nil]
        exact keeps_concat keeps.order _
      · rw [List.filter_cons_of_neg about, List.filter_nil, List.append_nil, List.append_nil]
        exact keeps
  | replaced _ other front old back key split oldKey found =>
      have before : course taken jobs =
          (taken ++ front.map (·.job)) ++ old.job :: back.map (·.job) := by
        rw [course, split, List.map_append, List.append_assoc]
        rfl
      have after : course taken { jobs with
          nextId := jobs.nextId + 1
          queue := front ++ jobs.ticket request waiter :: back } =
            (taken ++ front.map (·.job)) ++ ⟨jobs.nextId, request⟩ :: back.map (·.job) := by
        rw [course, List.map_append, List.append_assoc]
        rfl
      rw [before, List.filter_append] at keeps
      rw [after, List.filter_append]
      by_cases same : other = uri
      · subst same
        have beside := valid.filter_queue split oldKey
        have oldAbout : old.job.isAbout other = true := Job.isAbout_iff.mpr oldKey
        have about : (⟨jobs.nextId, request⟩ : Job).isAbout other = true :=
          Job.isAbout_iff.mpr key
        rw [List.filter_cons_of_pos oldAbout, beside.2] at keeps
        rw [List.filter_cons_of_pos about, List.filter_cons_of_pos about, beside.2, List.filter_nil]
        exact keeps_concat ((List.sublist_append_left _ _).trans keeps.order) _
      · -- neither the job that gives way nor the one that replaces it counts
        have oldOther : ¬ old.job.isAbout uri = true := fun about =>
          same (Job.uri_unique (Job.isAbout_iff.mpr oldKey) about)
        have newOther : ¬ (⟨jobs.nextId, request⟩ : Job).isAbout uri = true := fun about =>
          same (Job.uri_unique (Job.isAbout_iff.mpr key) about)
        rw [List.filter_cons_of_neg oldOther] at keeps
        rw [List.filter_cons_of_neg newOther, List.filter_cons_of_neg newOther, List.filter_nil,
          List.append_nil]
        exact keeps

/-- What is known of a queue that began empty and whose compiler was not lost.
Then no job was given up, so of the jobs about a document some were replaced and
the others are in the course. -/
structure Tracks (uri : Uri) (history : List Operation) (taken : List Job) (jobs : JobQueue) :
    Prop where
  running : jobs.phase ≠ .exited
  nextId : jobs.nextId = 1 + (requests history).length
  keeps : Keeps ((numbered 1 (requests history)).filter (·.isAbout uri))
    ((course taken jobs).filter (·.isAbout uri))

/-- One operation, which is not the loss of the compiler. -/
theorem Tracks.perform {uri : Uri} {history : List Operation} {taken : List Job}
    {jobs : JobQueue} (tracks : Tracks uri history taken jobs) (valid : jobs.Valid)
    {operation : Operation} (lasting : operation.abandons = false) :
    Tracks uri (history ++ [operation]) (taken ++ (jobs.perform operation).2.toList)
      (jobs.perform operation).1 := by
  have performs := jobs.perform_cases operation
  have running := performs.running tracks.running lasting
  cases said : operation.request? with
  | none =>
      have unsaid : requests (history ++ [operation]) = requests history := by
        rw [requests_append, requests, requests, List.filterMap_cons_none said,
          List.filterMap_nil, List.append_nil]
      rcases performs.queue_eq said lasting with ⟨queue, nextId⟩
      have same : course (taken ++ (jobs.perform operation).2.toList)
          (jobs.perform operation).1 = course taken jobs := by
        rw [course, List.append_assoc, queue]
        rfl
      refine ⟨running, ?_, ?_⟩
      · rw [nextId, unsaid]
        exact tracks.nextId
      · rw [same, unsaid]
        exact tracks.keeps
  | some request =>
      cases operation with
      | submit other waiter =>
          cases said
          have more : requests (history ++ [.submit request waiter]) =
              requests history ++ [request] := requests_append history [.submit request waiter]
          have submitted : numbered 1 (requests history ++ [request]) =
              numbered 1 (requests history) ++ [⟨jobs.nextId, request⟩] := by
            rw [numbered_append, tracks.nextId]
            rfl
          refine ⟨running, ?_, ?_⟩
          · rw [more, List.length_append, List.length_singleton, ← Nat.add_assoc, ← tracks.nextId]
            exact jobs.submit_nextId request waiter tracks.running
          · rw [more, submitted, List.filter_append]
            have kept := keeps_submit valid tracks.running tracks.keeps request waiter
            rw [show taken ++ (jobs.perform (.submit request waiter)).2.toList = taken from
              List.append_nil taken]
            exact kept
      | _ => cases said

theorem tracks (uri : Uri) (history : List Operation)
    (lasting : ∀ operation ∈ history, operation.abandons = false) :
    Tracks uri history (initial.performAll history).2 (initial.performAll history).1 := by
  induction history using List.reverseRecOn with
  | nil => exact ⟨(nomatch ·), rfl, ⟨List.Sublist.refl _, rfl⟩⟩
  | append_singleton before last inductionHypothesis =>
      have earlier := inductionHypothesis fun operation listed =>
        lasting operation (List.mem_append_left _ listed)
      rw [performAll_concat]
      exact earlier.perform (initial_valid.performAll before)
        (lasting last (List.mem_append_right _ (List.mem_singleton_self last)))

/-- While the compiler is not lost, the jobs about a document that are taken
are some of those submitted for it, in that order and each at most once.  When
nothing waits, the last one taken is the last one submitted. -/
theorem latest_taken (uri : Uri) (history : List Operation)
    (lasting : ∀ operation ∈ history, operation.abandons = false) :
    let ran := initial.performAll history
    let submitted := (numbered 1 (requests history)).filter (·.isAbout uri)
    let taken := ran.2.filter (·.isAbout uri)
    taken.Sublist submitted ∧ (taken.map (·.id)).Nodup ∧
      (ran.1.queue = [] → taken.getLast? = submitted.getLast?) := by
  intro ran submitted taken
  have keeps : Keeps submitted ((course ran.2 ran.1).filter (·.isAbout uri)) :=
    (tracks uri history lasting).keeps
  have order : taken.Sublist submitted :=
    ((List.sublist_append_left _ _).filter _).trans keeps.order
  refine ⟨order, ?_, ?_⟩
  · have distinct : ((numbered 1 (requests history)).map (·.id)).Nodup := by
      rw [ids_numbered]
      exact List.nodup_range'
    exact distinct.sublist ((order.trans List.filter_sublist).map _)
  · intro empty
    have nothing : course ran.2 ran.1 = ran.2 := by
      rw [course, empty]
      exact List.append_nil _
    have latest := keeps.latest
    rw [nothing] at latest
    exact latest

/-- A change is in flight when a second change and a save of the document come,
and an answer to no job is told in between. -/
theorem latest_taken_save :
    let text (version : Int) : Snapshot := ⟨⟨"a"⟩, version, "text"⟩
    let history : List Operation := [.submit (.documentChanged (text 1)) none, .markReady, .drive,
      .submit (.documentChanged (text 2)) none, .submit (.documentSaved (text 3)) (some 7),
      .complete 9 (.ok .null), .drive, .complete 1 (.ok .null), .drive]
    (∀ operation ∈ history, operation.abandons = false) ∧
      (initial.performAll history).2.filter (·.isAbout ⟨"a"⟩) =
        [⟨1, .documentChanged (text 1)⟩, ⟨3, .documentSaved (text 3)⟩] ∧
      ((initial.performAll history).2.filter (·.isAbout ⟨"a"⟩)).getLast? =
        ((numbered 1 (requests history)).filter (·.isAbout ⟨"a"⟩)).getLast? :=
  ⟨by decide, by decide, (latest_taken ⟨"a"⟩ _ (by decide)).2.2 (by decide)⟩

end JobQueue
end CompilerRelay
