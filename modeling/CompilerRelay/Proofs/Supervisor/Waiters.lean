import CompilerRelay.Proofs.Supervisor.History
import Mathlib.Data.List.Perm.Basic

/-!
# No waiter is forgotten

Whoever submits a request may leave a waiter with it.  A step tells some
waiters and keeps the others, and it neither loses nor doubles one: what a
step tells together with what it keeps is what it found together with what the
event brought.  The law is proved for each half of a step and summed over a
run in `Moment.waiters_perm`.  It says nothing about what is told or why.
-/

namespace CompilerRelay

open Effect

def Event.waiter? : Event → Option Waiter
  | submit _ waiter => waiter
  | _ => none

def waiters (events : List Event) : List Waiter :=
  events.filterMap Event.waiter?

@[simp] theorem waiters_append (first second : List Event) :
    waiters (first ++ second) = waiters first ++ waiters second :=
  List.filterMap_append

@[simp] theorem waiters_singleton (event : Event) : waiters [event] = event.waiter?.toList := by
  cases event with
  | submit request waiter => cases waiter <;> rfl
  | _ => rfl

namespace JobQueue

/-- The waiters of the jobs that are not done. -/
def waiting (jobs : JobQueue) : List Waiter :=
  jobs.outstanding.filterMap (·.waiter)

@[simp] theorem waiters_of_resolve (ticket : Ticket) (outcome : Outcome) :
    (ticket.resolve outcome).map (·.waiter) = ticket.waiter.toList := by
  rcases ticket with ⟨job, waiter⟩
  cases waiter <;> rfl

theorem filterMap_cons_waiter (ticket : Ticket) (rest : List Ticket) :
    (ticket :: rest).filterMap (·.waiter) = ticket.waiter.toList ++ rest.filterMap (·.waiter) := by
  rcases ticket with ⟨job, waiter⟩
  cases waiter <;> rfl

@[simp] theorem waiters_of_losses (jobs : JobQueue) :
    jobs.losses.map (·.waiter) = jobs.waiting := by
  rw [losses, waiting]
  induction jobs.outstanding with
  | nil => rfl
  | cons ticket rest inductionHypothesis =>
      rw [List.flatMap_cons, List.map_append, inductionHypothesis, waiters_of_resolve,
        filterMap_cons_waiter]

theorem waiting_of_split {jobs : JobQueue} {front back : List Ticket} {ticket : Ticket}
    (split : jobs.queue = front ++ ticket :: back) :
    jobs.waiting = (jobs.inFlight.toList ++ front).filterMap (·.waiter) ++
      (ticket.waiter.toList ++ back.filterMap (·.waiter)) := by
  rw [waiting, outstanding, split, ← List.append_assoc, List.filterMap_append,
    filterMap_cons_waiter]

/-- A submission tells the new waiter, or keeps it, perhaps in the place of
another, which it tells. -/
theorem submit_waiting (jobs : JobQueue) (request : Request) (waiter : Option Waiter) :
    ((jobs.submit request waiter).resolved.map (·.waiter) ++
      (jobs.submit request waiter).jobs.waiting).Perm (waiter.toList ++ jobs.waiting) := by
  have submits := jobs.submit_cases request waiter
  generalize jobs.submit request waiter = submission at submits
  cases submits with
  | refused gone =>
      rw [waiters_of_resolve]
      exact List.Perm.refl _
  | replaced present uri front old back key split oldKey found =>
      rw [waiters_of_resolve, waiting_of_split split, waiting_of_split rfl]
      refine List.perm_iff_count.mpr fun other => ?_
      simp only [List.count_append, ticket]
      omega
  | appended present alone =>
      rw [waiting_of_split rfl]
      refine List.perm_iff_count.mpr fun other => ?_
      simp only [List.map_nil, List.nil_append, List.filterMap_nil, List.append_nil,
        List.count_append, ticket, waiting, outstanding]
      omega

end JobQueue

namespace Desk

/-- Whoever waits or arrives is told or still waits. -/
theorem Handles.waiting_perm {verdict : Verdict} {desk after : Desk} {event : Event}
    {begun : List Launch} {told : List Resolution}
    (handled : Handles verdict desk event after begun told) :
    (told.map (·.waiter) ++ after.jobs.waiting).Perm
      (event.waiter?.toList ++ desk.jobs.waiting) := by
  cases handled with
  | ignored ignores =>
      cases event with
      | submit request waiter =>
          rcases ignores with ⟨_, other⟩ | impossible
          · exact absurd rfl (other request waiter)
          · exact impossible.elim
      | _ => exact List.Perm.refl _
  | launched => exact List.Perm.refl _
  | lost running loss =>
      rw [JobQueue.waiters_of_losses]
      rcases loss.abandons with ⟨phase, _, abandoned⟩
      rw [abandoned]
      cases loss <;> exact List.Perm.of_eq (List.append_nil _)
  | submitted request waiter => exact desk.jobs.submit_waiting request waiter
  | readied => exact List.Perm.refl _
  | @concluded event ticket outcome running flying settles =>
      rw [JobQueue.waiters_of_resolve]
      have before : desk.jobs.waiting =
          ticket.waiter.toList ++ desk.jobs.queue.filterMap (·.waiter) := by
        rw [JobQueue.waiting, JobQueue.outstanding, flying]
        exact JobQueue.filterMap_cons_waiter ticket desk.jobs.queue
      rw [before]
      exact List.Perm.refl _

theorem Pumps.waiting_perm {verdict : Verdict} {desk after : Desk} {handed : List Handover}
    {lost : List Resolution} (pumped : Pumps verdict desk after handed lost) :
    (lost.map (·.waiter) ++ after.jobs.waiting).Perm desk.jobs.waiting := by
  cases pumped with
  | idle => exact List.Perm.refl _
  | taken ready free split held accepts =>
      rw [JobQueue.waiting, JobQueue.waiting, JobQueue.outstanding, JobQueue.outstanding, free,
        split]
      exact List.Perm.refl _
  | failed =>
      rw [JobQueue.waiters_of_losses]
      exact List.Perm.of_eq (List.append_nil _)

end Desk

namespace Moment

/-- In every run, whoever left a waiter was told or still waits. -/
theorem waiters_perm (events : List (Verdict × Event)) :
    ((resolutions (Supervisor.initial.run events).2).map (·.waiter) ++
      (Supervisor.initial.run events).1.jobs.waiting).Perm (waiters (events.map (·.2))) := by
  refine induction (P := fun events s =>
    ((resolutions (Supervisor.initial.run events).2).map (·.waiter) ++ s.jobs.waiting).Perm
      (waiters (events.map (·.2)))) (List.Perm.refl _) ?_ events
  intro moment before
  rcases moment.halves with ⟨told, lost, handled, pumped, resolved⟩
  have first : (told.map (·.waiter) ++ moment.middle.jobs.waiting).Perm
      (waiters [moment.event] ++ moment.state.jobs.waiting) := by
    rw [waiters_singleton]
    exact handled.waiting_perm
  have second : (lost.map (·.waiter) ++ moment.next.jobs.waiting).Perm
      moment.middle.jobs.waiting := pumped.waiting_perm
  rw [run_through, resolutions_append, resolved, through]
  simp only [List.map_append, List.map_singleton, waiters_append]
  generalize (resolutions (Supervisor.initial.run moment.before).2).map (·.waiter) = earlier
    at before ⊢
  generalize told.map (·.waiter) = soon at first ⊢
  generalize lost.map (·.waiter) = late at second ⊢
  calc earlier ++ (soon ++ late) ++ moment.next.jobs.waiting
      = earlier ++ (soon ++ (late ++ moment.next.jobs.waiting)) := by
        rw [List.append_assoc, List.append_assoc]
    List.Perm _ (earlier ++ (soon ++ moment.middle.jobs.waiting)) :=
        (second.append_left soon).append_left earlier
    List.Perm _ (earlier ++ (waiters [moment.event] ++ moment.state.jobs.waiting)) :=
        first.append_left earlier
    List.Perm _ (earlier ++ moment.state.jobs.waiting ++ waiters [moment.event]) := by
        rw [List.append_assoc]
        exact List.perm_append_comm.append_left earlier
    List.Perm _ (waiters (moment.before.map (·.2)) ++ waiters [moment.event]) :=
        before.append_right _

end Moment

/-! ## Each waiter comes with one event -/

theorem mem_waiters_of_in {moment : Moment} {events : List (Verdict × Event)}
    (inside : moment.In events) {waiter : Waiter} (brings : moment.event.waiter? = some waiter) :
    waiter ∈ waiters (events.map (·.2)) :=
  List.mem_filterMap.mpr ⟨_, List.mem_map.mpr ⟨_, inside.mem, rfl⟩, brings⟩

/-- Where waiters are distinct, a waiter belongs to one submission. -/
theorem Moment.eq_of_waiter {first second : Moment} {events : List (Verdict × Event)}
    (distinct : (waiters (events.map (·.2))).Nodup) (left : first.In events)
    (right : second.In events) {waiter : Waiter} (former : first.event.waiter? = some waiter)
    (latter : second.event.waiter? = some waiter) : first = second := by
  have apart : ∀ {early late : Moment}, early.Precedes late → late.In events →
      early.event.waiter? = some waiter → late.event.waiter? = some waiter → False := by
    intro early late order inside before now
    have part : (waiters (late.through.map (·.2))).Nodup :=
      List.Nodup.sublist ((inside.sublist.map _).filterMap _) distinct
    rw [Moment.through, List.map_append, waiters_append] at part
    have listed : waiter ∈ waiters [late.event] := List.mem_filterMap.mpr
      ⟨late.event, List.mem_singleton_self _, now⟩
    exact (List.nodup_append.mp part).2.2 waiter (mem_waiters_of_in order before) waiter listed rfl
  rcases Moment.trichotomy left right with earlier | same | later
  · exact (apart earlier right former latter).elim
  · exact same
  · exact (apart later left latter former).elim

/-! ## Events that are turned away -/

theorem mem_unhandled {events : List Event} {waiter : Waiter} {outcome : Outcome} :
    ⟨waiter, outcome⟩ ∈ resolutions (events.flatMap Event.unhandled) ↔
      (∃ request, Event.submit request (some waiter) ∈ events) ∧
        outcome = .error .unavailable := by
  rw [mem_resolutions, List.mem_flatMap]
  constructor
  · rintro ⟨event, listed, told⟩
    cases event with
    | submit request keeper =>
        cases keeper with
        | none => cases told
        | some other =>
            cases List.mem_singleton.mp told
            exact ⟨⟨request, listed⟩, rfl⟩
    | status other => cases List.mem_singleton.mp told
    | _ => cases told
  · rintro ⟨⟨request, listed⟩, same⟩
    subst same
    exact ⟨_, listed, List.mem_singleton_self _⟩

end CompilerRelay
