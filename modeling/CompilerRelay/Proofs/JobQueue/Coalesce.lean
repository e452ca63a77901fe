import CompilerRelay.Proofs.JobQueue.Latest

/-!
# What is left of requests that wait together

`coalesce` says in one pass over a list of jobs which of them are left when all
of them wait: of the recompilations of one document only the last, in the place
of the first.  The queue gets there by another way, since it replaces a waiting
job whenever a later one is submitted.  `queue_submit` is the step that shows
that both ways agree.  It compares a list with the same list and one more job at
its end, while `coalesce` is defined from the front; the lemmas about appending
a job bridge the two.
-/

namespace CompilerRelay

/-- The last job about a document among some that follow one about it. -/
def latest (uri : Uri) (first : Job) (later : List Job) : Job :=
  (later.filter (·.isAbout uri)).getLast?.getD first

/-- Of the jobs about a document leave the last, in the place of the first, and
none if the document was seen before.  All other jobs are left where they are. -/
def coalesce (seen : List Uri) : List Job → List Job
  | [] => []
  | job :: later =>
    match job.request.coalesceKey with
    | none => job :: coalesce seen later
    | some uri =>
      if uri ∈ seen then coalesce seen later
      else latest uri job later :: coalesce (uri :: seen) later

theorem isAbout_latest {uri : Uri} {first : Job} (about : first.isAbout uri = true)
    (later : List Job) : (latest uri first later).isAbout uri = true := by
  rw [latest]
  cases last : (later.filter (·.isAbout uri)).getLast? with
  | none => exact about
  | some job => exact (List.mem_filter.mp (List.mem_of_getLast? last)).2

theorem latest_concat_of_isAbout {uri : Uri} {new : Job} (about : new.isAbout uri = true)
    (first : Job) (later : List Job) : latest uri first (later ++ [new]) = new := by
  rw [latest, List.filter_append, List.filter_cons_of_pos about, List.filter_nil,
    List.getLast?_concat]
  rfl

theorem latest_concat_of_other {uri : Uri} {new : Job} (other : ¬ new.isAbout uri = true)
    (first : Job) (later : List Job) :
    latest uri first (later ++ [new]) = latest uri first later := by
  rw [latest, List.filter_append, List.filter_cons_of_neg other, List.filter_nil, List.append_nil]
  rfl

section

variable {seen : List Uri} {job : Job}

theorem coalesce_of_unkeyed (key : job.request.coalesceKey = none) (later : List Job) :
    coalesce seen (job :: later) = job :: coalesce seen later := by
  simp only [coalesce, key]

theorem coalesce_of_seen {uri : Uri} (key : job.request.coalesceKey = some uri)
    (known : uri ∈ seen) (later : List Job) :
    coalesce seen (job :: later) = coalesce seen later := by
  simp only [coalesce, key, if_pos known]

theorem coalesce_of_unseen {uri : Uri} (key : job.request.coalesceKey = some uri)
    (unknown : uri ∉ seen) (later : List Job) :
    coalesce seen (job :: later) = latest uri job later :: coalesce (uri :: seen) later := by
  simp only [coalesce, key, if_neg unknown]

end

/-- Nothing is left about a document that was seen before. -/
theorem not_mem_seen {seen : List Uri} {jobs : List Job} {job : Job}
    (left : job ∈ coalesce seen jobs) {uri : Uri} (about : job.isAbout uri = true) :
    uri ∉ seen := by
  induction jobs generalizing seen with
  | nil => cases left
  | cons first later inductionHypothesis =>
      cases key : first.request.coalesceKey with
      | none =>
          rw [coalesce_of_unkeyed key] at left
          rcases List.mem_cons.mp left with same | behind
          · rw [← same, Job.isAbout_iff.mp about] at key
            cases key
          · exact inductionHypothesis behind
      | some other =>
          by_cases known : other ∈ seen
          · rw [coalesce_of_seen key known] at left
            exact inductionHypothesis left
          · rw [coalesce_of_unseen key known] at left
            rcases List.mem_cons.mp left with same | behind
            · have aboutOther : job.isAbout other = true :=
                same ▸ isAbout_latest (Job.isAbout_iff.mpr key) later
              exact Job.uri_unique aboutOther about ▸ known
            · exact fun member => inductionHypothesis behind (List.mem_cons_of_mem other member)

/-! ## One more job at the end -/

/-- A job about a document that was seen before changes nothing. -/
theorem coalesce_concat_of_seen {uri : Uri} {new : Job} (about : new.isAbout uri = true)
    {seen : List Uri} (known : uri ∈ seen) (jobs : List Job) :
    coalesce seen (jobs ++ [new]) = coalesce seen jobs := by
  induction jobs generalizing seen with
  | nil => exact coalesce_of_seen (Job.isAbout_iff.mp about) known []
  | cons first later inductionHypothesis =>
      rw [List.cons_append]
      cases key : first.request.coalesceKey with
      | none =>
          rw [coalesce_of_unkeyed key, coalesce_of_unkeyed key, inductionHypothesis known]
      | some other =>
          by_cases earlier : other ∈ seen
          · rw [coalesce_of_seen key earlier, coalesce_of_seen key earlier,
              inductionHypothesis known]
          · have differs : ¬ new.isAbout other = true := fun same =>
              earlier (Job.uri_unique about same ▸ known)
            rw [coalesce_of_unseen key earlier, coalesce_of_unseen key earlier,
              latest_concat_of_other differs,
              inductionHypothesis (List.mem_cons_of_mem other known)]

/-- A job of which no document knows is left, at the end. -/
theorem coalesce_concat_of_alone {new : Job} {seen : List Uri} {jobs : List Job}
    (unknown : ∀ uri ∈ seen, ¬ new.isAbout uri = true)
    (alone : ∀ uri, new.isAbout uri = true →
      ∀ job ∈ coalesce seen jobs, ¬ job.isAbout uri = true) :
    coalesce seen (jobs ++ [new]) = coalesce seen jobs ++ [new] := by
  induction jobs generalizing seen with
  | nil =>
      cases key : new.request.coalesceKey with
      | none => exact coalesce_of_unkeyed key []
      | some uri =>
          exact coalesce_of_unseen key (fun known => unknown uri known (Job.isAbout_iff.mpr key)) []
  | cons first later inductionHypothesis =>
      rw [List.cons_append]
      cases key : first.request.coalesceKey with
      | none =>
          rw [coalesce_of_unkeyed key] at alone ⊢
          rw [coalesce_of_unkeyed key, List.cons_append, inductionHypothesis unknown
            fun uri about job behind => alone uri about job (List.mem_cons_of_mem _ behind)]
      | some other =>
          by_cases known : other ∈ seen
          · rw [coalesce_of_seen key known] at alone ⊢
            rw [coalesce_of_seen key known, inductionHypothesis unknown alone]
          · rw [coalesce_of_unseen key known] at alone ⊢
            have differs : ¬ new.isAbout other = true := by
              intro about
              have left : (latest other first later).isAbout other = true :=
                isAbout_latest (Job.isAbout_iff.mpr key) later
              exact alone other about _ List.mem_cons_self left
            have unknown' : ∀ uri ∈ other :: seen, ¬ new.isAbout uri = true := by
              intro uri member
              rcases List.mem_cons.mp member with same | earlier
              · exact same ▸ differs
              · exact unknown uri earlier
            rw [coalesce_of_unseen key known, latest_concat_of_other differs, List.cons_append,
              inductionHypothesis unknown'
                fun uri about job behind => alone uri about job (List.mem_cons_of_mem _ behind)]

/-- A job about a document takes the place of the one that is left about it. -/
theorem coalesce_concat_of_split {uri : Uri} {new old : Job} (about : new.isAbout uri = true)
    (oldAbout : old.isAbout uri = true) {seen : List Uri} {jobs front back : List Job}
    (split : coalesce seen jobs = front ++ old :: back) :
    coalesce seen (jobs ++ [new]) = front ++ new :: back := by
  induction jobs generalizing seen front with
  | nil => exact absurd split.symm (List.append_ne_nil_of_right_ne_nil front (List.cons_ne_nil _ _))
  | cons first later inductionHypothesis =>
      rw [List.cons_append]
      cases key : first.request.coalesceKey with
      | none =>
          rw [coalesce_of_unkeyed key] at split ⊢
          rcases List.cons_eq_append_iff.mp split with ⟨_, same⟩ | ⟨ahead, found, behind⟩
          · rw [← (List.cons.inj same).1, Job.isAbout_iff.mp oldAbout] at key
            cases key
          · rw [inductionHypothesis behind, found, List.cons_append]
      | some other =>
          by_cases known : other ∈ seen
          · rw [coalesce_of_seen key known] at split ⊢
            exact inductionHypothesis split
          · rw [coalesce_of_unseen key known] at split ⊢
            rcases List.cons_eq_append_iff.mp split with ⟨found, same⟩ | ⟨ahead, found, behind⟩
            · -- the one that is left is the last of those about its document so far
              have parts := List.cons.inj same
              have aboutOther : old.isAbout other = true :=
                parts.1 ▸ isAbout_latest (Job.isAbout_iff.mpr key) later
              have equal : other = uri := Job.uri_unique aboutOther oldAbout
              rw [equal, latest_concat_of_isAbout about, coalesce_concat_of_seen about
                List.mem_cons_self, ← equal, ← parts.2, found]
              rfl
            · have left : old ∈ coalesce (other :: seen) later :=
                behind ▸ List.mem_append_right ahead List.mem_cons_self
              have differs : ¬ new.isAbout other = true := fun same =>
                not_mem_seen left oldAbout (Job.uri_unique same about ▸ List.mem_cons_self)
              rw [latest_concat_of_other differs, inductionHypothesis behind, found,
                List.cons_append]

namespace JobQueue

/-- Nothing has to give way to the only request that waits. -/
theorem submit_of_empty {jobs : JobQueue} (running : jobs.phase ≠ .exited)
    (empty : jobs.queue = []) (request : Request) (waiter : Option Waiter) :
    (jobs.submit request waiter).jobs =
      { jobs with nextId := jobs.nextId + 1, queue := [jobs.ticket request waiter] } := by
  have submits := jobs.submit_cases request waiter
  generalize jobs.submit request waiter = submission at submits
  cases submits with
  | refused gone => exact absurd gone running
  | replaced _ uri front old back key split =>
      rw [empty] at split
      exact absurd split.symm (List.append_ne_nil_of_right_ne_nil front (List.cons_ne_nil _ _))
  | appended =>
      rw [empty]
      rfl

/-- If the jobs that wait are those that are left of some, then this is still so
when one more is submitted. -/
theorem queue_submit {jobs : JobQueue} (running : jobs.phase ≠ .exited) {past : List Job}
    (queue : jobs.queue.map (·.job) = coalesce [] past) (request : Request)
    (waiter : Option Waiter) : (jobs.submit request waiter).jobs.queue.map (·.job) =
      coalesce [] (past ++ [⟨jobs.nextId, request⟩]) := by
  have submits := jobs.submit_cases request waiter
  generalize jobs.submit request waiter = submission at submits
  cases submits with
  | refused gone => exact absurd gone running
  | replaced _ uri front old back key split oldKey found =>
      rw [split, List.map_append, List.map_cons] at queue
      rw [List.map_append, List.map_cons]
      exact (coalesce_concat_of_split (Job.isAbout_iff.mpr key) (Job.isAbout_iff.mpr oldKey)
        queue.symm).symm
  | appended _ alone =>
      rw [List.map_append, queue, coalesce_concat_of_alone]
      · rfl
      · intro _ impossible
        cases impossible
      · intro uri about job left
        rw [← queue] at left
        rcases List.mem_map.mp left with ⟨other, listed, rfl⟩
        intro same
        exact alone uri (Job.isAbout_iff.mp about) other listed (Job.isAbout_iff.mp same)

end JobQueue
end CompilerRelay
