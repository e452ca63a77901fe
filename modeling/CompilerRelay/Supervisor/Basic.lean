import CompilerRelay.Report
import CompilerRelay.Supervisor.Event

/-!
The supervisor: one compiler, one queue of jobs, one ledger.

Each event is handled to its end before the next one, and after each event at
most one job is handed to the compiler.  The supervisor is a function from its
state and an event to its next state and effects; whether a launch or a
dispatch would succeed is given to it as a verdict.  Everything a compiler does
is stamped with its generation, and what a replaced compiler still says is
ignored.
-/

namespace CompilerRelay

/-- Whether launches and dispatches would fail, and why.  A verdict is given for
one event, in which there is at most one launch and one dispatch; it may be
different for the next event. -/
structure Verdict where
  launch : LaunchSettings → Option Failure
  dispatch : Job → Option Failure

/-- The state of the supervisor.  Of the program itself it holds nothing but a
number, the generation: whether it runs is known from events alone. -/
structure Supervisor where
  jobs : JobQueue
  ledger : Ledger
  /-- The generation of the compiler that is held, if one is. -/
  channel : Option Nat
  /-- The number of launch attempts. -/
  generation : Nat
  /-- The compiler has been told to shut down, so its end is expected. -/
  closing : Bool
  /-- The label of the diagnostics of this generation. -/
  source : String
  halted : Bool

namespace Supervisor

def initial : Supervisor where
  jobs := .initial
  ledger := .empty
  channel := none
  generation := 0
  closing := false
  source := ({} : Settings).diagnosticsSource
  halted := false

def status (s : Supervisor) : Status where
  phase := s.jobs.phase
  pending := s.jobs.queue.length
  inFlight := s.jobs.inFlightId
  tracked := s.ledger.size
  generation := s.generation

@[simp] private def info (text : String) : Effect :=
  .logged (.info text)

@[simp] private def warning (text : String) : Effect :=
  .logged (.warning text)

@[simp] private def failure (text : String) : Effect :=
  .logged (.error text)

/-- Tell the editor the phase. -/
@[simp] def announce (s : Supervisor) : Effect :=
  .notified (.status s.jobs.phase)

/-- The compiler is gone: everything outstanding fails. -/
def compilerGone (s : Supervisor) : Supervisor × List Effect :=
  let given := s.jobs.exit
  let after := { s with channel := none, jobs := given.jobs }
  (after, s.channel.toList.map .released ++ given.resolved.map .resolved
    ++ [warning ("Compiler unavailable; failed " ++ toString given.count ++ " outstanding job(s)"),
      after.announce])

/-- Attempt a launch, which begins a generation. -/
def start (s : Supervisor) (verdict : Verdict) (settings : Settings) :
    Supervisor × List Effect :=
  let begun := { s with
    generation := s.generation + 1
    closing := false
    source := settings.diagnosticsSource }
  match verdict.launch settings.compiler with
  | none =>
    ({ begun with channel := some begun.generation },
      [.launched begun.generation settings.compiler true, begun.announce])
  | some cause =>
    let gone := begun.compilerGone
    (gone.1, [.launched begun.generation settings.compiler false,
      failure ("Failed to start compiler: " ++ cause.text),
      .notified (.showMessage (.error
        ("Failed to start compiler `" ++ settings.compiler.command ++ "`: " ++ cause.text)))]
      ++ gone.2)

/-- Take everything from the ledger and the editor. -/
def withdraw (s : Supervisor) : Supervisor × List Effect :=
  let cleared := s.ledger.clear
  ({ s with ledger := cleared.1 }, cleared.2.map .published)

/-- Replace the compiler. -/
def restart (s : Supervisor) (verdict : Verdict) (settings : Settings) :
    Supervisor × List Effect :=
  let given := s.jobs.restart
  let reset := { s with channel := none, jobs := given.jobs }
  let withdrawn := reset.withdraw
  let started := withdrawn.1.start verdict settings
  let count := if given.count = 0 then []
    else [info ("Restart abandoned " ++ toString given.count ++ " outstanding job(s)")]
  (started.1, [info "Restarting compiler"] ++ s.channel.toList.map .terminated
    ++ given.resolved.map .resolved ++ count ++ withdrawn.2 ++ started.2)

/-- Publish a report, file by file.  Documents that the report does not list
keep what they show. -/
def publish (s : Supervisor) (report : Report) : Supervisor × List Effect :=
  let published := s.ledger.publishAll (report.diagnostics s.source)
  ({ s with ledger := published.1 }, published.2.map .published)

def jobName (job : Job) : String :=
  job.label ++ " (" ++ job.kind.name ++ ")"

/-- Act on the outcome of a job that is done. -/
def absorb (s : Supervisor) (job : Job) (outcome : Outcome) : Supervisor × List Effect :=
  match outcome with
  | .ok answer =>
    if job.kind.reports then
      match Report.ofAnswer answer with
      | .ok report => s.publish report
      | .error error => (s, [warning ("Job " ++ jobName job ++ ": " ++ error.message)])
    else (s, [])
  | .error (.garbled reason) =>
    (s, [warning ("Job " ++ jobName job ++ " failed: " ++ (JobError.garbled reason).message)])
  | .error _ => (s, [])

/-- End a job and act on its outcome, if it is the one in flight. -/
def conclude (s : Supervisor) (id : Nat) (outcome : Outcome) : Supervisor × List Effect :=
  match s.jobs.complete id outcome with
  | none => (s, [])
  | some done =>
    let absorbed := { s with jobs := done.jobs }.absorb done.job outcome
    (absorbed.1, done.resolved.map .resolved ++ absorbed.2)

/-- What is logged when a compiler that is gone says it is ready. -/
def lateReadiness : LogEntry :=
  .warning "Ignoring readiness signal after compiler exit"

/-- What the user is told when a compiler ends by itself. -/
def exitWarning : String :=
  "The compiler exited. Run the `compilerBridge.restart` command to start it again."

/-- Handle something the current compiler did.  Answers to jobs that are not in
flight, and announcements when none is awaited, change nothing. -/
def onCompilerEvent (s : Supervisor) : CompilerEvent → Supervisor × List Effect
  | .ready =>
    let marked := s.jobs.markReady
    if marked.2 then
      let after := { s with jobs := marked.1 }
      (after, [info "Compiler ready", after.announce])
    else if s.jobs.phase = .exited then
      (s, [.logged lateReadiness])
    else (s, [])
  | .response id outcome => s.conclude id outcome
  | .unmatched reason =>
    let noted := warning ("Unrecognized compiler output: " ++ reason)
    match s.jobs.inFlightId with
    | none => (s, [noted])
    | some id =>
      let concluded := s.conclude id (.error (.garbled reason))
      (concluded.1, noted :: concluded.2)
  | .notification notice => (s, [.notified notice])
  | .exited =>
    let gone := s.compilerGone
    (gone.1, gone.2 ++ [if s.closing then info "Compiler exited after shutdown"
      else .notified (.showMessage (.warning exitWarning))])

/-- Handle an event, except for handing over a job. -/
def handle (s : Supervisor) (verdict : Verdict) : Event → Supervisor × List Effect
  | .launch settings =>
    if s.generation = 0 then s.start verdict settings
    else (s, [warning "Compiler already launched; use restart instead"])
  | .restart settings => s.restart verdict settings
  | .submit request waiter =>
    let submitted := s.jobs.submit request waiter
    ({ s with jobs := submitted.jobs }, submitted.resolved.map .resolved)
  | .compiler generation event =>
    if generation = s.generation then s.onCompilerEvent event else (s, [])
  | .status waiter => (s, [.reported waiter (some s.status)])
  | .stop => (s, [])

/-- Give a job to the compiler that is held, if one is. -/
def refusal? (s : Supervisor) (verdict : Verdict) (job : Job) : Option Failure :=
  match s.channel with
  | some _ => verdict.dispatch job
  | none => some ⟨["no compiler process"]⟩

/-- Hand over the next job, if its time has come.  If the compiler does not take
it, the compiler is given up with all jobs, this one included.  If it takes a
job about the whole project, everything is taken from the editor. -/
def pump (s : Supervisor) (verdict : Verdict) : Supervisor × List Effect :=
  match s.jobs.drive with
  | none => (s, [])
  | some (job, jobs) =>
    let driven := { s with jobs }
    let offered (accepted : Bool) : List Effect :=
      s.channel.toList.map (Effect.dispatched · job accepted)
    match s.refusal? verdict job with
    | some cause =>
      let gone := driven.compilerGone
      (gone.1, offered false
        ++ [failure ("Failed to dispatch job " ++ jobName job ++ ": " ++ cause.text)] ++ gone.2)
    | none =>
      match job.kind.category with
      | .workspace =>
        let withdrawn := driven.withdraw
        (withdrawn.1, offered true ++ withdrawn.2)
      | .lifecycle => ({ driven with closing := true }, offered true)
      | .recompile => (driven, offered true)
      | .query => (driven, offered true)

/-- End the supervisor.  The compiler is told to end, and every waiter is told
that there is none. -/
def halt (s : Supervisor) : Supervisor × List Effect :=
  let given := s.jobs.exit
  ({ s with jobs := given.jobs, channel := none, halted := true },
    s.channel.toList.map .terminated ++ [info "Job scheduler stopped"]
      ++ given.resolved.map .resolved)

/-- Handle an event and hand over the next job. -/
def step (s : Supervisor) (verdict : Verdict) (event : Event) : Supervisor × List Effect :=
  if s.halted then (s, event.unhandled)
  else match event with
    | .stop => s.halt
    | event =>
      let handled := s.handle verdict event
      let pumped := handled.1.pump verdict
      (pumped.1, handled.2 ++ pumped.2)

/-- Handle events one after the other, each under its own verdict. -/
def run (s : Supervisor) : List (Verdict × Event) → Supervisor × List Effect
  | [] => (s, [])
  | (verdict, event) :: rest =>
    let first := s.step verdict event
    let others := first.1.run rest
    (others.1, first.2 ++ others.2)

end Supervisor
end CompilerRelay
