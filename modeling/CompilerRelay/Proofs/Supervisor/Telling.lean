import CompilerRelay.Proofs.JobQueue.Telling
import CompilerRelay.Proofs.Supervisor.Moment

/-!
# Steps of the supervisor that tell waiters themselves

A step of the supervisor lists its effects, and carrying them out is left to
whoever takes the step.  Here the step is carried out as it goes.  The waiters
of jobs are told by the queue, in the middle of the operation that ends the job,
and those who ask how things stand are told by the supervisor; each of them
answers whether it was still there.

Only what tells a waiter, or leads to it, has to be written out again.  What
takes no part in it (withdrawing and publishing diagnostics, absorbing an
outcome) is performed as it is.  `stepping_eq` says that a step comes to the same
state and says the same things in the same order whatever the waiters answer.
-/

namespace CompilerRelay
namespace Supervisor

variable (s : Supervisor) (verdict : Verdict)

/-- The compiler is gone, and everything outstanding fails. -/
def losing : Speech Effect Supervisor := do
  Speech.say (s.channel.toList.map .released)
  let (jobs, count) ← (s.jobs.abandoning .exited).rephrase .resolved
  let after := { s with channel := none, jobs }
  Speech.say [.logged (.warning
    ("Compiler unavailable; failed " ++ toString count ++ " outstanding job(s)")), after.announce]
  pure after

/-- Attempt a launch.  If it fails, those who wait for jobs are told. -/
def starting (settings : Settings) : Speech Effect Supervisor :=
  let begun := { s with
    generation := s.generation + 1
    closing := false
    source := settings.diagnosticsSource }
  match verdict.launch settings.compiler with
  | none => do
    let after := { begun with channel := some begun.generation }
    Speech.say [.launched begun.generation settings.compiler true, begun.announce]
    pure after
  | some cause => do
    Speech.say [.launched begun.generation settings.compiler false,
      .logged (.error ("Failed to start compiler: " ++ cause.text)),
      .notified (.showMessage (.error
        ("Failed to start compiler `" ++ settings.compiler.command ++ "`: " ++ cause.text)))]
    begun.losing

/-- Replace the compiler.  Those who wait for jobs are told before anything is
withdrawn from the editor. -/
def restarting (settings : Settings) : Speech Effect Supervisor := do
  Speech.say (.logged (.info "Restarting compiler") :: s.channel.toList.map .terminated)
  let (jobs, count) ← (s.jobs.abandoning .notReady).rephrase .resolved
  Speech.say (if count = 0 then []
    else [.logged (.info ("Restart abandoned " ++ toString count ++ " outstanding job(s)"))])
  let withdrawn ← Speech.perform { s with channel := none, jobs }.withdraw
  withdrawn.starting verdict settings

/-- End a job, tell its waiter, and then act on the outcome. -/
def concluding (id : Nat) (outcome : Outcome) : Speech Effect Supervisor := do
  match ← (s.jobs.completing id outcome).rephrase .resolved with
  | none => pure s
  | some (jobs, job) => Speech.perform ({ s with jobs }.absorb job outcome)

/-- Handle something the current compiler did. -/
def hearing : CompilerEvent → Speech Effect Supervisor
  | .response id outcome => s.concluding id outcome
  | .unmatched reason => do
    Speech.say [.logged (.warning ("Unrecognized compiler output: " ++ reason))]
    match s.jobs.inFlightId with
    | none => pure s
    | some id => s.concluding id (.error (.garbled reason))
  | .exited => do
    let gone ← s.losing
    Speech.say [if s.closing then .logged (.info "Compiler exited after shutdown")
      else .notified (.showMessage (.warning exitWarning))]
    pure gone
  | said => Speech.perform (s.onCompilerEvent said)

/-- Handle an event.  Who asks how things stand is told at once. -/
def handling : Event → Speech Effect Supervisor
  | .launch settings =>
    if s.generation = 0 then s.starting verdict settings
    else do
      Speech.say [.logged (.warning "Compiler already launched; use restart instead")]
      pure s
  | .restart settings => s.restarting verdict settings
  | .submit request waiter => do
    let (jobs, _) ← (s.jobs.submitting request waiter).rephrase .resolved
    pure { s with jobs }
  | .compiler generation event => if generation = s.generation then s.hearing event else pure s
  | .status waiter => do
    let _heard ← Speech.tell (Effect.reported waiter (some s.status))
    pure s
  | .stop => pure s

/-- Hand over the next job, if its time has come. -/
def pumping : Speech Effect Supervisor :=
  match s.jobs.drive with
  | none => pure s
  | some (job, jobs) =>
    let driven := { s with jobs }
    match s.refusal? verdict job with
    | some cause => do
      Speech.say (s.channel.toList.map (.dispatched · job false) ++ [.logged (.error
        ("Failed to dispatch job " ++ jobName job ++ ": " ++ cause.text))])
      driven.losing
    | none => do
      Speech.say (s.channel.toList.map (.dispatched · job true))
      match job.kind.category with
      | .workspace => Speech.perform driven.withdraw
      | .lifecycle => pure { driven with closing := true }
      | .recompile => pure driven
      | .query => pure driven

/-- End the supervisor, which lets go of everybody who waits. -/
def halting : Speech Effect Supervisor := do
  Speech.say (s.channel.toList.map .terminated ++ [.logged (.info "Job scheduler stopped")])
  let (jobs, _) ← (s.jobs.abandoning .exited).rephrase .resolved
  pure { s with jobs, channel := none, halted := true }

/-- Handle an event and hand over the next job.  This is a step of the
supervisor as a speech: whoever it tells something may answer by having gone
away, and the step goes on as before. -/
def stepping (event : Event) : Speech Effect Supervisor :=
  if s.halted then do
    Speech.say event.unhandled
    pure s
  else match event with
    | .stop => s.halting
    | event => do
      let handled ← s.handling verdict event
      handled.pumping verdict

/-! ## The answers do not matter -/

theorem losing_eq : s.losing = .perform s.compilerGone := by
  simp [losing, JobQueue.abandoning_eq, compilerGone, JobQueue.exit]

theorem starting_eq (settings : Settings) :
    s.starting verdict settings = .perform (s.start verdict settings) := by
  unfold starting start
  cases verdict.launch settings.compiler with
  | none => simp
  | some cause => simp [losing_eq]

theorem restarting_eq (settings : Settings) :
    s.restarting verdict settings = .perform (s.restart verdict settings) := by
  simp [restarting, JobQueue.abandoning_eq, starting_eq, restart, JobQueue.restart]

theorem concluding_eq (id : Nat) (outcome : Outcome) :
    s.concluding id outcome = .perform (s.conclude id outcome) := by
  simp only [concluding, JobQueue.completing_eq, conclude]
  cases s.jobs.complete id outcome <;> simp

theorem hearing_eq (event : CompilerEvent) :
    s.hearing event = .perform (s.onCompilerEvent event) := by
  cases event with
  | response id outcome => exact s.concluding_eq id outcome
  | unmatched reason =>
      simp only [hearing, onCompilerEvent]
      cases s.jobs.inFlightId <;> simp [concluding_eq]
  | exited => cases farewell : s.closing <;> simp [hearing, onCompilerEvent, losing_eq, farewell]
  | ready => rfl
  | notification => rfl

theorem handling_eq (event : Event) :
    s.handling verdict event = .perform (s.handle verdict event) := by
  cases event with
  | launch settings =>
      by_cases first : s.generation = 0
      · simp [handling, handle, first, starting_eq]
      · simp [handling, handle, first]
  | restart settings => exact s.restarting_eq verdict settings
  | submit request waiter => simp [handling, JobQueue.submitting_eq, handle]
  | compiler generation event =>
      by_cases current : generation = s.generation
      · simp [handling, handle, current, hearing_eq]
      · simp [handling, handle, current]
  | status waiter => rfl
  | stop => rfl

theorem pumping_eq : s.pumping verdict = .perform (s.pump verdict) := by
  unfold pumping pump
  cases s.jobs.drive with
  | none => rfl
  | some next =>
      cases refused : s.refusal? verdict next.1 with
      | some cause => simp [refused, losing_eq]
      | none => cases category : next.1.kind.category <;> simp [refused, category]

theorem halting_eq : s.halting = .perform s.halt := by
  simp [halting, JobQueue.abandoning_eq, halt, JobQueue.exit]

/-- Whatever the waiters answer, a step goes as if nobody had asked them. -/
theorem stepping_eq (event : Event) :
    s.stepping verdict event = .perform (s.step verdict event) := by
  cases ended : s.halted with
  | true => simp [stepping, step, ended]
  | false =>
      by_cases last : event = .stop
      · subst last
        rw [s.step_stop ended, ← halting_eq, stepping, ended]
        rfl
      · rw [s.step_of_ne_stop ended verdict last]
        have goes : s.stepping verdict event =
            s.handling verdict event >>= fun handled => handled.pumping verdict := by
          unfold stepping
          rw [ended]
          cases event with
          | stop => exact absurd rfl last
          | _ => rfl
        simp [goes, handling_eq, pumping_eq]

end Supervisor
end CompilerRelay
