import CompilerRelay.Proofs.Inbox
import CompilerRelay.Proofs.JobQueue.Telling

/-!
# A queue without some of its waiters

A ticket carries the name of whoever waits for its job, and the queue never
looks at it but to tell it how the job ended.  So some waiters may be left out
of the tickets (`JobQueue.without`): every operation then does what it did, and
tells the other waiters what it told them.  There is one lemma for each
operation, and `JobQueue.commutes_without` joins them.
-/

namespace CompilerRelay

/-- Some of these waiters, or nobody. -/
def waiterBut (others : List Waiter) (waiter : Option Waiter) : Option Waiter :=
  waiter.filter (· ∉ others)

theorem waiterBut_of_mem {others : List Waiter} {waiter : Waiter} (listed : waiter ∈ others) :
    waiterBut others (some waiter) = none := by
  simp [waiterBut, listed]

theorem waiterBut_of_not_mem {others : List Waiter} {waiter : Waiter} (spared : waiter ∉ others) :
    waiterBut others (some waiter) = some waiter := by
  simp [waiterBut, spared]

/-- The part of what is told that is for none of these waiters. -/
def toldBut (others : List Waiter) (told : List Resolution) : List Resolution :=
  told.filter (·.waiter ∉ others)

theorem toldBut_append (others : List Waiter) (first second : List Resolution) :
    toldBut others (first ++ second) = toldBut others first ++ toldBut others second :=
  List.filter_append first second

namespace Ticket

/-- The ticket, without its waiter if that is one of these. -/
def without (others : List Waiter) (ticket : Ticket) : Ticket :=
  { ticket with waiter := waiterBut others ticket.waiter }

theorem resolve_without (others : List Waiter) (ticket : Ticket) (outcome : Outcome) :
    (ticket.without others).resolve outcome = toldBut others (ticket.resolve outcome) := by
  rcases ticket with ⟨job, waiter⟩
  cases waiter with
  | none => rfl
  | some waiter =>
      by_cases listed : waiter ∈ others
      · simp [resolve, without, waiterBut_of_mem listed, toldBut, listed]
      · simp [resolve, without, waiterBut_of_not_mem listed, toldBut, listed]

end Ticket

namespace JobQueue

variable (others : List Waiter) (jobs : JobQueue)

/-- The queue, without these waiters.  Their jobs stay, and are handed over,
replaced and given up like those of other waiters. -/
def without : JobQueue :=
  { jobs with
    queue := jobs.queue.map (Ticket.without others)
    inFlight := jobs.inFlight.map (Ticket.without others) }

@[simp] theorem phase_without : (jobs.without others).phase = jobs.phase := rfl

theorem inFlightId_without : (jobs.without others).inFlightId = jobs.inFlightId := by
  rw [inFlightId, without, Option.map_map]
  rfl

theorem outstanding_without :
    (jobs.without others).outstanding = jobs.outstanding.map (Ticket.without others) := by
  rw [outstanding, without, outstanding, List.map_append]
  cases jobs.inFlight <;> rfl

/-! ## Operations -/

theorem replace_without (uri : Uri) (ticket : Ticket) (queue : List Ticket) :
    replace uri (ticket.without others) (queue.map (Ticket.without others)) =
      (replace uri ticket queue).map fun found =>
        (found.1.map (Ticket.without others), found.2.without others) := by
  induction queue with
  | nil => rfl
  | cons first rest inductionHypothesis =>
      have key : (first.without others).coalesceKey = first.coalesceKey := rfl
      rw [List.map_cons, replace, replace, key, inductionHypothesis]
      by_cases same : first.coalesceKey = some uri
      · rw [if_pos same, if_pos same]
        rfl
      · rw [if_neg same, if_neg same, Option.map_map, Option.map_map]
        rfl

theorem submit_without (request : Request) (waiter : Option Waiter) :
    (jobs.without others).submit request (waiterBut others waiter) =
      { jobs := (jobs.submit request waiter).jobs.without others
        id := (jobs.submit request waiter).id
        resolved := toldBut others (jobs.submit request waiter).resolved } := by
  rcases jobs with ⟨phase, queue, inFlight, nextId⟩
  have found : (request.coalesceKey.bind fun uri =>
      replace uri ⟨⟨nextId, request⟩, waiterBut others waiter⟩
        (queue.map (Ticket.without others))) =
          (request.coalesceKey.bind fun uri =>
            replace uri ⟨⟨nextId, request⟩, waiter⟩ queue).map fun found =>
              (found.1.map (Ticket.without others), found.2.without others) := by
    rw [Option.map_bind]
    exact congrArg _ (funext fun uri => replace_without others uri ⟨_, waiter⟩ queue)
  by_cases gone : phase = .exited
  · rw [submit_of_exited _ gone, submit_of_exited _ gone]
    exact congrArg (Submission.mk _ none)
      (Ticket.resolve_without others ⟨⟨nextId, request⟩, waiter⟩ _)
  · simp only [submit, without, if_neg gone, found]
    cases request.coalesceKey.bind fun uri => replace uri ⟨⟨nextId, request⟩, waiter⟩ queue with
    | none =>
        simp only [Option.map_none, List.map_append]
        rfl
    | some found =>
        simp only [Option.map_some, Ticket.resolve_without]

theorem drive_without : (jobs.without others).drive =
    jobs.drive.map fun taken => (taken.1, taken.2.without others) := by
  rcases jobs with ⟨phase, queue, inFlight, nextId⟩
  cases phase <;> cases inFlight <;> cases queue <;> rfl

theorem complete_without (id : Nat) (outcome : Outcome) :
    (jobs.without others).complete id outcome = (jobs.complete id outcome).map fun done =>
      ⟨done.jobs.without others, done.job, toldBut others done.resolved⟩ := by
  rcases jobs with ⟨phase, queue, inFlight, nextId⟩
  cases inFlight with
  | none => rfl
  | some ticket =>
      simp only [complete, without, Option.map_some, Ticket.resolve_without]
      by_cases own : ticket.job.id = id
      · have same : (ticket.without others).job.id = id := own
        rw [if_pos own, if_pos same]
        rfl
      · have other : (ticket.without others).job.id ≠ id := own
        rw [if_neg own, if_neg other]
        rfl

theorem abandon_without (phase : Phase) : (jobs.without others).abandon phase =
    { jobs := (jobs.abandon phase).jobs.without others
      count := (jobs.abandon phase).count
      resolved := toldBut others (jobs.abandon phase).resolved } := by
  have told : ∀ tickets : List Ticket,
      (tickets.map (Ticket.without others)).flatMap (·.resolve (.error .unavailable)) =
        toldBut others (tickets.flatMap (·.resolve (.error .unavailable))) := by
    intro tickets
    induction tickets with
    | nil => rfl
    | cons ticket rest inductionHypothesis =>
        rw [List.map_cons, List.flatMap_cons, List.flatMap_cons, inductionHypothesis,
          toldBut_append, Ticket.resolve_without]
  simp only [abandon, outstanding_without, List.length_map, told]
  rfl

theorem markReady_without : (jobs.without others).markReady =
    (jobs.markReady.1.without others, jobs.markReady.2) := by
  rcases jobs with ⟨phase, queue, inFlight, nextId⟩
  cases phase <;> rfl

/-! ## All operations -/

def Operation.without : Operation → Operation
  | submit request waiter => .submit request (waiterBut others waiter)
  | other => other

theorem perform_without (operation : Operation) :
    ((jobs.without others).perform (operation.without others)).1 =
      (jobs.perform operation).1.without others := by
  cases operation with
  | submit request waiter => simp only [Operation.without, perform, submit_without]
  | drive =>
      simp only [Operation.without, perform, drive_without]
      cases jobs.drive <;> rfl
  | complete id outcome =>
      simp only [Operation.without, perform, complete_without]
      cases jobs.complete id outcome <;> rfl
  | markReady => simp only [Operation.without, perform, markReady_without]
  | exit => simp only [Operation.without, perform, exit, abandon_without]
  | restart => simp only [Operation.without, perform, restart, abandon_without]

theorem resolved_without (operation : Operation) :
    (jobs.without others).resolved (operation.without others) =
      toldBut others (jobs.resolved operation) := by
  cases operation with
  | submit request waiter => simp only [Operation.without, resolved, submit_without]
  | complete id outcome =>
      simp only [Operation.without, resolved, complete_without]
      cases jobs.complete id outcome <;> rfl
  | exit => simp only [Operation.without, resolved, exit, abandon_without]
  | restart => simp only [Operation.without, resolved, restart, abandon_without]
  | _ => rfl

theorem yield_without (operation : Operation) :
    (jobs.without others).yield (operation.without others) = jobs.yield operation := by
  cases operation with
  | submit request waiter => simp only [Operation.without, yield, submit_without]
  | drive =>
      simp only [Operation.without, yield, drive_without]
      cases jobs.drive <;> rfl
  | complete id outcome =>
      simp only [Operation.without, yield, complete_without]
      cases jobs.complete id outcome <;> rfl
  | markReady => simp only [Operation.without, yield, markReady_without]
  | exit => simp only [Operation.without, yield, exit, abandon_without]
  | restart => simp only [Operation.without, yield, restart, abandon_without]

/-! ## A queue among waiters that may stop listening -/

/-- A queue tells the waiters of its jobs, each in the middle of the operation that
ends the job. -/
def reactor : Reactor JobQueue Operation Yield where
  step := performing
  waiter?
    | .told resolution => some resolution.waiter
    | _ => none

/-- No operation takes notice of whether those it tells were there. -/
theorem performs : reactor.Performs operate :=
  performing_eq

theorem filter_told (told : List Resolution) :
    ((toldBut others told).map Yield.told).filter (Inbox.spares reactor.waiter? others) =
      (told.map Yield.told).filter (Inbox.spares reactor.waiter? others) := by
  rw [List.filter_map, List.filter_map, toldBut, List.filter_filter]
  congr 2
  funext resolution
  exact Bool.and_self _

/-- What an operation does is the same without some waiters, and so is what it
tells the others. -/
theorem commutes_without :
    reactor.Commutes operate others (without others) (Operation.without others) := by
  intro jobs operation
  refine ⟨perform_without others jobs operation, ?_⟩
  simp only [operate, resolved_without, yield_without, List.filter_append, filter_told]

/-- While nobody stops listening, an operation is attended by telling everybody
in order, and the inbox says who was there. -/
theorem attend_performing (inbox : Inbox) (operation : Operation) :
    inbox.attend reactor.waiter? (fun _ => []) (jobs.performing operation) =
      let told := inbox.tellAll (jobs.resolved operation)
      ((jobs.perform operation).1,
        ⟨told.1, told.2.map .told ++ [jobs.yield operation], []⟩) := by
  rw [performing_eq, Inbox.attend_perform, Inbox.amid_nobody, operate, List.map_append,
    List.map_map, Inbox.listen_append]
  rw [show (Sum.inr ∘ Yield.told : Resolution → Waiter ⊕ Yield) = fun resolution =>
    .inr (.told resolution) from rfl, Inbox.listen_map reactor.waiter? fun _ => rfl]
  cases operation <;> rfl

end JobQueue
end CompilerRelay
