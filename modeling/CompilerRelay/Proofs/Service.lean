import CompilerRelay.Proofs.Supervisor.Wanted
import CompilerRelay.Session

/-!
# The server in front of the supervisor

The settings belong to the server, and the supervisor never asks for them.  A
call that wants a compiler to be launched posts the settings as they are, and
the event waits its turn like any other.  So there are two states that evolve
separately: the settings follow the calls, and launches follow the events that
were handled, however late that is.

A `Plan` tells from the calls alone what the settings come to and which
settings launches are asked for with.  Whatever happens between the calls, the
launches of a run are the ones that are planned, as far as their events were
handled (`Service.launched_as_planned`).  Compilers and turns of the loop are
not restricted in any way: a launch may fail, and a compiler may say anything
at any time.
-/

namespace CompilerRelay

open Effect

/-! ## What is planned -/

/-- The settings after a call.  A value that is refused changes nothing, and a
root is taken only where no directory is set. -/
def Call.reconfigures (settings : Settings) : Call → Settings
  | introduce options root =>
    ((options.bind fun value => (settings.refine value).toOption).getD settings).withRoot
      (root.bind Uri.filePath?)
  | configured value =>
    ((value.member? Settings.sectionName).bind fun part =>
      (settings.refine part).toOption).getD settings
  | _ => settings

/-- Whether a call asks for a launch, given that none was asked for before. -/
def Call.launches (first : Bool) : Call → Bool
  | initialized => first
  | execute command => command = Server.restartCommand
  | _ => false

/-- The settings, and those of the launches that were asked for.  A plan is made
from calls alone, without regard to what compilers do or whether launches
succeed. -/
structure Plan where
  settings : Settings
  launches : List Settings

/-- The calls that may ask for a launch. -/
inductive Call.Asks : Call → Prop
  | initialized : Asks .initialized
  | restart : Asks (.execute Server.restartCommand)

theorem Call.launches_of_not_asks {call : Call} (quiet : ¬ call.Asks) (first : Bool) :
    call.launches first = false := by
  cases call with
  | initialized => exact absurd .initialized quiet
  | execute command => exact decide_eq_false fun same => quiet (same ▸ .restart)
  | _ => rfl

namespace Plan

def add (plan : Plan) (call : Call) : Plan where
  settings := call.reconfigures plan.settings
  launches := if call.launches plan.launches.isEmpty then plan.launches ++ [plan.settings]
    else plan.launches

/-- What calls come to, beginning with the given settings. -/
def ofCalls (settings : Settings) (calls : List Call) : Plan :=
  calls.foldl add ⟨settings, []⟩

theorem ofCalls_append (settings : Settings) (first second : List Call) :
    ofCalls settings (first ++ second) = second.foldl add (ofCalls settings first) :=
  List.foldl_append

end Plan

/-! ## The server and the loop -/

/-- The server, and the loop that handles what it posts.  Calls and turns of the
loop alternate in any way, so events may wait while further calls come. -/
structure Service where
  server : Server
  loop : EventLoop Unit

/-- Something that happens to the server or the loop.  Any sequence of these is
allowed, also one in which compilers speak that were never launched. -/
inductive Happening where
  | call (waiter : Waiter) (call : Call)
  /-- The compiler of a generation did something. -/
  | heard (generation : Nat) (event : CompilerEvent)
  /-- The first event that waits is handled; the verdict says how launches and
  dispatches go. -/
  | turn (verdict : Verdict)

/-- A world that says how launches and dispatches go, and posts nothing.  What
compilers do is posted by `Happening.heard` instead, so nothing is lost by it.
-/
def stillWorld (verdict : Verdict) : World Unit where
  verdict _ := verdict
  react _ _ := ((), [])

def Action.event? : Action → Option Event
  | post event => some event
  | log _ => none

/-- The events among actions. -/
def posts (actions : List Action) : List Event :=
  actions.filterMap Action.event?

def EventLoop.postAll {σ : Type} (loop : EventLoop σ) : List Event → EventLoop σ × List Effect
  | [] => (loop, [])
  | event :: rest =>
    let posted := loop.post event
    let others := posted.1.postAll rest
    (others.1, posted.2 ++ others.2)

/-- A session posts what the server wants it to post. -/
theorem Session.perform_loop (session : Session) (actions : List Action) :
    (session.perform actions).1.loop = (session.loop.postAll (posts actions)).1 := by
  induction actions generalizing session with
  | nil => rfl
  | cons action rest inductionHypothesis =>
      cases action with
      | log entry => exact inductionHypothesis session
      | post event => exact inductionHypothesis _

namespace Service

def initial (settings : Settings) : Service :=
  ⟨.initial settings, .initial ()⟩

def step (service : Service) : Happening → Service × List Effect
  | .call waiter call =>
    let acted := service.server.handle waiter call
    let posted := service.loop.postAll (posts acted.2.1)
    (⟨acted.1, posted.1⟩, posted.2)
  | .heard generation event => ({ service with loop := (service.loop.emit generation event).1 }, [])
  | .turn verdict =>
    match service.loop.turn (stillWorld verdict) with
    | none => (service, [])
    | some (loop, effects) => ({ service with loop }, effects)

def run (service : Service) : List Happening → Service × List Effect
  | [] => (service, [])
  | happening :: rest =>
    let first := service.step happening
    let others := first.1.run rest
    (others.1, first.2 ++ others.2)

/-- What becomes of a service and what is done, from the beginning on. -/
def ran (settings : Settings) (happenings : List Happening) : Service × List Effect :=
  (initial settings).run happenings

end Service

def Happening.call? : Happening → Option Call
  | .call _ made => some made
  | _ => none

/-- The calls among what happens. -/
def calls (happenings : List Happening) : List Call :=
  happenings.filterMap Happening.call?

/-! ## One call -/

namespace Server

theorem handle_settings (server : Server) (waiter : Waiter) (call : Call) :
    (server.handle waiter call).1.settings = call.reconfigures server.settings := by
  cases call with
  | introduce options root =>
      cases options with
      | none => rfl
      | some value =>
          simp only [handle, introduce, Call.reconfigures, Option.bind_some]
          cases server.settings.refine value <;> rfl
  | configured value =>
      simp only [handle, configure, Call.reconfigures]
      cases value.member? Settings.sectionName with
      | none => rfl
      | some part =>
          simp only [Option.bind_some]
          cases server.settings.refine part <;> rfl
  | changed uri version texts =>
      simp only [handle]
      cases texts.getLast? <;> rfl
  | saved uri text =>
      simp only [handle]
      cases server.savedDocument? uri text <;> rfl
  | execute command =>
      simp only [handle]
      split
      · rfl
      · split <;> rfl
  | _ => rfl

/-- Events that ask for no launch add nothing. -/
theorem foldl_addWanted_of_silent {events : List Event}
    (silent : ∀ event ∈ events, ∀ before, event.wants? before = none) (listed : List Settings) :
    events.foldl Event.addWanted listed = listed := by
  induction events generalizing listed with
  | nil => rfl
  | cons event rest inductionHypothesis =>
      have here : Event.addWanted listed event = listed := by
        rw [Event.addWanted, silent event List.mem_cons_self, Option.toList_none, List.append_nil]
      rw [List.foldl_cons, here]
      exact inductionHypothesis (fun other later => silent other (List.mem_cons_of_mem _ later)) _

theorem posts_introduce (server : Server) (options : Option Json) (root : Option Uri) :
    posts (server.introduce options root).2 = [] := by
  cases options with
  | none => rfl
  | some value =>
      simp only [introduce]
      cases server.settings.refine value <;> rfl

theorem configure_silent (server : Server) (value : Json) :
    posts (server.configure value).2 = [] ∧
      (server.configure value).1.documents = server.documents := by
  unfold configure
  cases value.member? Settings.sectionName with
  | none => exact ⟨rfl, rfl⟩
  | some part =>
      simp only
      cases server.settings.refine part <;> exact ⟨rfl, rfl⟩

/-- Each URI is submitted by itself. -/
theorem posts_uris (note : Uri → LogEntry) (request : Uri → Request) (uris : List Uri) :
    posts (uris.flatMap fun uri => [.log (note uri), .post (.submit (request uri) none)]) =
      uris.map fun uri => .submit (request uri) none := by
  induction uris with
  | nil => rfl
  | cons uri rest inductionHypothesis =>
      rw [List.flatMap_cons, posts, List.filterMap_append, List.map_cons]
      exact congrArg (_ :: ·) inductionHypothesis

/-- Other calls post no more than jobs and questions. -/
theorem posts_of_not_asks (server : Server) (waiter : Waiter) {call : Call} (quiet : ¬ call.Asks) :
    ∀ event ∈ posts (server.handle waiter call).2.1,
      (∃ request waiter, event = .submit request waiter) ∨ event = .status waiter := by
  have single : ∀ request answerer, ∀ event ∈ [Event.submit request answerer],
      (∃ request waiter, event = .submit request waiter) ∨ event = .status waiter :=
    fun _ _ event listed => Or.inl ⟨_, _, List.mem_singleton.mp listed⟩
  have none : ∀ event ∈ ([] : List Event),
      (∃ request waiter, event = .submit request waiter) ∨ event = .status waiter :=
    fun _ listed => absurd listed List.not_mem_nil
  cases call with
  | introduce options root =>
      rw [show posts (server.handle waiter (.introduce options root)).2.1 = [] from
        server.posts_introduce options root]
      exact none
  | initialized => exact absurd .initialized quiet
  | configured value =>
      rw [show posts (server.handle waiter (.configured value)).2.1 = [] from
        (server.configure_silent value).1]
      exact none
  | changed uri version texts =>
      simp only [handle]
      cases texts.getLast? with
      | none => exact none
      | some text => exact single _ _
  | saved uri text =>
      simp only [handle]
      cases server.savedDocument? uri text with
      | none => exact none
      | some document => exact single _ _
  | addUris uris =>
      rw [show posts (server.handle waiter (.addUris uris)).2.1 = _ from posts_uris _ .addUri uris]
      intro event listed
      rcases List.mem_map.mp listed with ⟨uri, _, rfl⟩
      exact Or.inl ⟨_, _, rfl⟩
  | removeUris uris =>
      rw [show posts (server.handle waiter (.removeUris uris)).2.1 = _ from
        posts_uris _ .removeUri uris]
      intro event listed
      rcases List.mem_map.mp listed with ⟨uri, _, rfl⟩
      exact Or.inl ⟨_, _, rfl⟩
  | execute command =>
      have other : command ≠ restartCommand := fun same => quiet (same ▸ .restart)
      simp only [handle, if_neg other]
      by_cases asked : command = statusCommand
      · rw [if_pos asked]
        exact fun event listed => Or.inr (List.mem_singleton.mp listed)
      · rw [if_neg asked]
        exact none
  | closed => exact none
  | _ => exact single _ _

/-- What a call posts wants a launch if the call asks for one. -/
theorem wanted_of_call (server : Server) (waiter : Waiter) (call : Call) (listed : List Settings) :
    (posts (server.handle waiter call).2.1).foldl Event.addWanted listed =
      if call.launches listed.isEmpty then listed ++ [server.settings] else listed := by
  by_cases asks : call.Asks
  · cases asks with
    | initialized =>
        -- The event is posted every time, and heeded only as the first one.
        change listed ++ (Event.wants? listed.length (.launch server.settings)).toList = _
        cases listed with
        | nil => rfl
        | cons first rest =>
            rw [Event.wants?, List.length_cons, if_neg (Nat.succ_ne_zero _)]
            exact List.append_nil _
    | restart => rfl
  · rw [call.launches_of_not_asks asks]
    refine foldl_addWanted_of_silent (fun event listed before => ?_) listed
    rcases server.posts_of_not_asks waiter asks event listed with ⟨_, _, rfl⟩ | rfl
    · rfl
    · rfl

/-- The server never posts the end. -/
theorem stop_not_mem_posts (server : Server) (waiter : Waiter) (call : Call) :
    .stop ∉ posts (server.handle waiter call).2.1 := by
  intro last
  by_cases asks : call.Asks
  · cases asks with
    | initialized => cases List.mem_singleton.mp last
    | restart => cases List.mem_singleton.mp last
  · rcases server.posts_of_not_asks waiter asks .stop last with ⟨_, _, impossible⟩ | impossible
    · cases impossible
    · cases impossible

end Server

/-! ## Runs -/

namespace EventLoop

theorem postAll_of_running {σ : Type} {loop : EventLoop σ}
    (running : loop.supervisor.halted = false) (events : List Event) :
    loop.postAll events = ({ loop with pending := loop.pending ++ events }, []) := by
  induction events generalizing loop with
  | nil => rw [postAll, List.append_nil]
  | cons event rest inductionHypothesis =>
      have posted : loop.post event = ({ loop with pending := loop.pending ++ [event] }, []) := by
        rw [post, running]
        rfl
      rw [postAll, posted]
      have others := @inductionHypothesis { loop with pending := loop.pending ++ [event] } running
      simp only [others, List.append_assoc, List.singleton_append, List.append_nil]

theorem reactAll_still (verdict : Verdict) (state : Unit) (effects : List Effect) :
    (stillWorld verdict).reactAll state effects = ((), []) := by
  induction effects with
  | nil => rfl
  | cons effect rest inductionHypothesis => exact inductionHypothesis

end EventLoop

namespace Service

theorem run_append (service : Service) (first second : List Happening) :
    service.run (first ++ second) = (((service.run first).1.run second).1,
      (service.run first).2 ++ ((service.run first).1.run second).2) := by
  induction first generalizing service with
  | nil => rfl
  | cons happening rest inductionHypothesis =>
      simp only [List.cons_append, run, inductionHypothesis, List.append_assoc]

theorem step_turn (service : Service) (verdict : Verdict) {event : Event} {rest : List Event}
    (waits : service.loop.pending = event :: rest) :
    service.step (.turn verdict) =
      ({ service with loop := ⟨(service.loop.supervisor.step verdict event).1, rest, ()⟩ },
        (service.loop.supervisor.step verdict event).2) := by
  simp only [step, EventLoop.turn, waits, EventLoop.reactAll_still, List.append_nil]
  rfl

/-- The events that were handled and those that wait are the ones that the
calls posted, and what compilers did. -/
structure Traces (plan : Plan) (ran : Service × List Effect) (handled : List (Verdict × Event)) :
    Prop where
  supervisor : ran.1.loop.supervisor = (Supervisor.initial.run handled).1
  effects : ran.2 = (Supervisor.initial.run handled).2
  settings : ran.1.server.settings = plan.settings
  wanted : Event.wanted (handled.map Prod.snd ++ ran.1.loop.pending) = plan.launches
  goes_on : .stop ∉ handled.map Prod.snd ++ ran.1.loop.pending

theorem Traces.running {plan : Plan} {ran : Service × List Effect}
    {handled : List (Verdict × Event)} (traces : Traces plan ran handled) :
    ran.1.loop.supervisor.halted = false := by
  rw [traces.supervisor]
  exact (Moment.uses fun last => traces.goes_on (List.mem_append_left _ last)).running

theorem Traces.step {plan : Plan} {ran : Service × List Effect} {handled : List (Verdict × Event)}
    (traces : Traces plan ran handled) (happening : Happening) :
    ∃ handled', Traces (happening.call?.toList.foldl Plan.add plan)
      ((ran.1.step happening).1, ran.2 ++ (ran.1.step happening).2) handled' := by
  rcases ran with ⟨service, effects⟩
  cases happening with
  | call waiter call =>
      have posted := EventLoop.postAll_of_running traces.running
        (posts (service.server.handle waiter call).2.1)
      refine ⟨handled, ?_, ?_, ?_, ?_, ?_⟩
      · simp only [Service.step, posted]
        exact traces.supervisor
      · simp only [Service.step, posted, List.append_nil]
        exact traces.effects
      · simp only [Service.step, Server.handle_settings]
        exact congrArg (Call.reconfigures · call) traces.settings
      · simp only [Service.step, posted]
        rw [← List.append_assoc, Event.wanted_append, traces.wanted, Server.wanted_of_call,
          traces.settings]
        rfl
      · simp only [Service.step, posted]
        rw [← List.append_assoc, List.mem_append, not_or]
        exact ⟨traces.goes_on, Server.stop_not_mem_posts _ waiter call⟩
  | heard generation event =>
      have posted : (service.loop.emit generation event).1 =
          { service.loop with
            pending := service.loop.pending ++ [.compiler generation event] } := by
        rw [EventLoop.emit, traces.running]
        rfl
      refine ⟨handled, ?_, ?_, traces.settings, ?_, ?_⟩
      · simp only [Service.step, posted]
        exact traces.supervisor
      · exact (List.append_nil effects).trans traces.effects
      · simp only [Service.step, posted]
        rw [← List.append_assoc, Event.wanted_append, traces.wanted]
        exact List.append_nil _
      · simp only [Service.step, posted]
        rw [← List.append_assoc, List.mem_append, not_or]
        exact ⟨traces.goes_on, fun last => nomatch List.mem_singleton.mp last⟩
  | turn verdict =>
      cases waits : service.loop.pending with
      | nil =>
          have still : service.step (.turn verdict) = (service, []) := by
            simp only [Service.step, EventLoop.turn, waits]
          refine ⟨handled, ?_⟩
          rw [still, List.append_nil]
          exact traces
      | cons event rest =>
          -- The event goes from those that wait to those that were handled, and
          -- what they ask for together stays the same.
          have moved : (handled ++ [(verdict, event)]).map Prod.snd ++ rest =
              handled.map Prod.snd ++ service.loop.pending := by
            rw [waits, List.map_append, List.append_assoc]
            rfl
          refine ⟨handled ++ [(verdict, event)], ?_⟩
          rw [service.step_turn verdict waits]
          have ran := Supervisor.run_append .initial handled [(verdict, event)]
          rw [Supervisor.run_singleton, ← traces.supervisor, ← traces.effects] at ran
          refine ⟨(congrArg Prod.fst ran).symm, (congrArg Prod.snd ran).symm, traces.settings,
            ?_, ?_⟩
          · exact (congrArg Event.wanted moved).trans traces.wanted
          · exact moved ▸ traces.goes_on

theorem traces (base : Settings) (happenings : List Happening) :
    ∃ handled, Traces (.ofCalls base (calls happenings))
      (ran base happenings) handled := by
  induction happenings using List.reverseRecOn with
  | nil => exact ⟨[], rfl, rfl, rfl, rfl, List.not_mem_nil⟩
  | append_singleton before happening inductionHypothesis =>
      rcases inductionHypothesis with ⟨handled, traces⟩
      rcases traces.step happening with ⟨handled', next⟩
      refine ⟨handled', ?_⟩
      have called : Plan.ofCalls base (calls (before ++ [happening])) =
          happening.call?.toList.foldl Plan.add (.ofCalls base (calls before)) := by
        rw [calls, List.filterMap_append, Plan.ofCalls_append]
        cases happening <;> rfl
      rw [called, ran, run_append]
      simp only [run, List.append_nil]
      exact next

/-! ## Settings that change in between -/

/-- Two services that differ at most in their settings.  The same events wait
for their supervisors, which are in the same state. -/
structure Alike (first second : Service) : Prop where
  loop : first.loop = second.loop
  documents : first.server.documents = second.server.documents

theorem Alike.refl (service : Service) : service.Alike service :=
  ⟨rfl, rfl⟩

/-- Only the calls that ask for a launch tell the settings. -/
theorem posts_of_documents {first second : Server} (same : first.documents = second.documents)
    (waiter : Waiter) {call : Call} (quiet : ¬ call.Asks) :
    posts (first.handle waiter call).2.1 = posts (second.handle waiter call).2.1 ∧
      (first.handle waiter call).1.documents = (second.handle waiter call).1.documents := by
  rcases first with ⟨settings, documents⟩
  rcases second with ⟨settings', documents'⟩
  cases same
  cases call with
  | introduce options root =>
      have one := Server.posts_introduce ⟨settings, documents⟩ options root
      exact ⟨one.trans (Server.posts_introduce ⟨settings', documents⟩ options root).symm, rfl⟩
  | initialized => exact absurd .initialized quiet
  | configured value =>
      have one := Server.configure_silent ⟨settings, documents⟩ value
      have other := Server.configure_silent ⟨settings', documents⟩ value
      exact ⟨one.1.trans other.1.symm, one.2.trans other.2.symm⟩
  | changed uri version texts =>
      simp only [Server.handle]
      cases texts.getLast? <;> exact ⟨rfl, rfl⟩
  | saved uri text =>
      have found : Server.savedDocument? ⟨settings, documents⟩ uri text =
          Server.savedDocument? ⟨settings', documents⟩ uri text := rfl
      simp only [Server.handle, found]
      cases Server.savedDocument? ⟨settings', documents⟩ uri text <;> exact ⟨rfl, rfl⟩
  | execute command =>
      have other : command ≠ Server.restartCommand := fun same => quiet (same ▸ .restart)
      simp only [Server.handle, if_neg other]
      split <;> exact ⟨rfl, rfl⟩
  | _ => exact ⟨rfl, rfl⟩

theorem Alike.step {first second : Service} (alike : first.Alike second) {happening : Happening}
    (quiet : ∀ call ∈ happening.call?, ¬ call.Asks) :
    (first.step happening).1.Alike (second.step happening).1 ∧
      (first.step happening).2 = (second.step happening).2 := by
  rcases first with ⟨server, loop⟩
  rcases second with ⟨server', loop'⟩
  cases alike.loop
  cases happening with
  | call waiter call =>
      have posted := posts_of_documents alike.documents waiter (quiet call rfl)
      simp only [Service.step, posted.1]
      exact ⟨⟨rfl, posted.2⟩, trivial⟩
  | heard generation event => exact ⟨⟨rfl, alike.documents⟩, rfl⟩
  | turn verdict =>
      simp only [Service.step]
      cases loop.turn (stillWorld verdict) with
      | none => exact ⟨⟨rfl, alike.documents⟩, rfl⟩
      | some next => exact ⟨⟨rfl, alike.documents⟩, rfl⟩

theorem Alike.run {first second : Service} (alike : first.Alike second)
    {happenings : List Happening} (quiet : ∀ call ∈ calls happenings, ¬ call.Asks) :
    (first.run happenings).1.loop = (second.run happenings).1.loop ∧
      (first.run happenings).2 = (second.run happenings).2 := by
  induction happenings generalizing first second with
  | nil => exact ⟨alike.loop, rfl⟩
  | cons happening rest inductionHypothesis =>
      have here : ∀ call ∈ happening.call?, ¬ call.Asks := fun call made =>
        quiet call (List.mem_filterMap.mpr ⟨happening, List.mem_cons_self, made⟩)
      have later : ∀ call ∈ calls rest, ¬ call.Asks := by
        intro call listed
        rcases List.mem_filterMap.mp listed with ⟨other, behind, made⟩
        exact quiet call (List.mem_filterMap.mpr ⟨other, List.mem_cons_of_mem _ behind, made⟩)
      rcases alike.step here with ⟨next, same⟩
      rcases inductionHypothesis next later with ⟨loop, effects⟩
      simp only [Service.run, same, effects]
      exact ⟨loop, trivial⟩

/-- The calls that are about the settings. -/
inductive Configures : Call → Prop
  | introduce (options : Option Json) (root : Option Uri) : Configures (.introduce options root)
  | configured (value : Json) : Configures (.configured value)

/-- A call about the settings posts nothing. -/
theorem alike_of_configures (service : Service) (waiter : Waiter) {call : Call}
    (configures : Configures call) :
    (service.step (.call waiter call)).1.Alike service ∧
      (service.step (.call waiter call)).2 = [] := by
  cases configures with
  | introduce options root =>
      simp only [step, Server.handle, Server.posts_introduce]
      exact ⟨⟨rfl, rfl⟩, rfl⟩
  | configured value =>
      have silent := service.server.configure_silent value
      have posted : posts (service.server.handle waiter (.configured value)).2.1 = [] := silent.1
      simp only [step, posted]
      exact ⟨⟨rfl, silent.2⟩, rfl⟩

theorem run_of_configures (service : Service) (before between : List Happening) (waiter : Waiter)
    {call : Call} (configures : Configures call) (quiet : ∀ call ∈ calls between, ¬ call.Asks) :
    (service.run (before ++ .call waiter call :: between)).1.loop =
        (service.run (before ++ between)).1.loop ∧
      (service.run (before ++ .call waiter call :: between)).2 =
        (service.run (before ++ between)).2 := by
  rcases (service.run before).1.alike_of_configures waiter configures with ⟨alike, nothing⟩
  rcases alike.run quiet with ⟨loop, effects⟩
  rw [run_append, run_append, run]
  simp only [nothing, List.nil_append]
  exact ⟨loop, congrArg (_ ++ ·) effects⟩

/-! ## Turns until nothing waits -/

theorem pending_turns (service : Service) (verdicts : List Verdict) :
    (service.run (verdicts.map .turn)).1.loop.pending =
      service.loop.pending.drop verdicts.length := by
  induction verdicts generalizing service with
  | nil => rfl
  | cons verdict rest inductionHypothesis =>
      rw [List.map_cons, run]
      simp only [inductionHypothesis, List.length_cons]
      cases waits : service.loop.pending with
      | nil =>
          have still : service.step (.turn verdict) = (service, []) := by
            simp only [step, EventLoop.turn, waits]
          rw [still, waits, List.drop_nil, List.drop_nil]
      | cons event others => rw [service.step_turn verdict waits, List.drop_succ_cons]

/-! ## Launches -/

/-- The launches of a run, and the settings they use.  What was planned is
compared with what was done: at any time the launches are the first ones of the
plan, and all of it once nothing waits. -/
structure Launches (base : Settings) (happenings : List Happening) : Prop where
  /-- The settings are those that the calls come to. -/
  settings : (ran base happenings).1.server.settings =
    (Plan.ofCalls base (calls happenings)).settings
  /-- A call that asks for a launch adds one with the settings of that moment,
  behind those that were asked for before. -/
  moment : ∀ early waiter call late, happenings = early ++ .call waiter call :: late →
    call.launches (Plan.ofCalls base (calls early)).launches.isEmpty = true →
      (Plan.ofCalls base (calls early)).launches ++ [(ran base early).1.server.settings]
        <+: (Plan.ofCalls base (calls happenings)).launches
  /-- The launches that were attempted are the first ones of those that were
  asked for, and all of them if no event waits.  They are numbered in order, and
  the label in use is that of the last one. -/
  used : ∃ used, used <+: (Plan.ofCalls base (calls happenings)).launches ∧
    ((ran base happenings).1.loop.pending = [] →
      used = (Plan.ofCalls base (calls happenings)).launches) ∧
    (launches (ran base happenings).2).map (·.settings) = used.map (·.compiler) ∧
    (launches (ran base happenings).2).map (·.generation) = List.range' 1 used.length ∧
    (ran base happenings).1.loop.supervisor.source = labelAfter used
  /-- As many turns as events wait are enough for all launches. -/
  settled : ∀ verdicts : List Verdict,
    (ran base happenings).1.loop.pending.length ≤ verdicts.length →
      (launches (ran base (happenings ++ verdicts.map .turn)).2).map (·.settings) =
        (Plan.ofCalls base (calls happenings)).launches.map (·.compiler)
  /-- Options that are refused leave the settings as they were, but for the
  directory that the root stands in for. -/
  dismissed : ∀ options root complaint,
    (ran base happenings).1.server.settings.refine options = .error complaint → ∀ waiter,
      ((ran base happenings).1.step (.call waiter (.introduce (some options) root))).1.server =
        { (ran base happenings).1.server with
          settings := (ran base happenings).1.server.settings.withRoot (root.bind Uri.filePath?) }
  /-- A value that is refused leaves the settings as they were. -/
  rejected : ∀ value part complaint, value.member? Settings.sectionName = some part →
    (ran base happenings).1.server.settings.refine part = .error complaint → ∀ waiter,
      ((ran base happenings).1.step (.call waiter (.configured value))).1.server =
        (ran base happenings).1.server
  /-- If the settings had not been changed at some point, compilers and jobs
  would be where they are until the next launch is asked for. -/
  untouched : ∀ before waiter call between, happenings = before ++ .call waiter call :: between →
    Configures call → (∀ call ∈ calls between, ¬ call.Asks) →
      (ran base happenings).1.loop = (ran base (before ++ between)).1.loop ∧
        (ran base happenings).2 = (ran base (before ++ between)).2

theorem used_of_traces {plan : Plan} {ran : Service × List Effect}
    {handled : List (Verdict × Event)} (traces : Traces plan ran handled) :
    ∃ used, used <+: plan.launches ∧ (ran.1.loop.pending = [] → used = plan.launches) ∧
      (launches ran.2).map (·.settings) = used.map (·.compiler) ∧
      (launches ran.2).map (·.generation) = List.range' 1 used.length ∧
      ran.1.loop.supervisor.source = labelAfter used := by
  have uses := Moment.uses fun last => traces.goes_on (List.mem_append_left _ last)
  have numbered := Moment.generations_of_launches handled
  rw [uses.attempts] at numbered
  have wanted := traces.wanted
  rw [Event.wanted_append] at wanted
  rw [traces.supervisor, traces.effects]
  refine ⟨Event.wanted (handled.map Prod.snd), ?_, ?_, uses.settings, numbered, uses.label⟩
  · exact wanted ▸ Event.prefix_foldl_addWanted _ _
  · intro nothing
    rw [nothing] at wanted
    exact wanted

theorem prefix_launches (plan : Plan) (more : List Call) :
    plan.launches <+: (more.foldl Plan.add plan).launches := by
  induction more generalizing plan with
  | nil => exact List.prefix_rfl
  | cons call rest inductionHypothesis =>
      refine List.IsPrefix.trans ?_ (inductionHypothesis (plan.add call))
      unfold Plan.add
      simp only
      split
      · exact List.prefix_append _ _
      · exact List.prefix_rfl

/-- Compilers are launched as the calls plan it, whatever happens between the
calls. -/
theorem launched_as_planned (base : Settings) (happenings : List Happening) :
    Launches base happenings := by
  rcases traces base happenings with ⟨handled, whole⟩
  refine ⟨whole.settings, ?_, used_of_traces whole, ?_, ?_, ?_, ?_⟩
  · rintro early waiter call late rfl asks
    rcases traces base early with ⟨_, start⟩
    have split : calls (early ++ .call waiter call :: late) = calls early ++ call :: calls late :=
      List.filterMap_append
    rw [split, Plan.ofCalls_append, List.foldl_cons, start.settings]
    have added := prefix_launches ((Plan.ofCalls base (calls early)).add call) (calls late)
    rw [show ((Plan.ofCalls base (calls early)).add call).launches = _ from if_pos asks] at added
    exact added
  · intro verdicts enough
    rcases traces base (happenings ++ verdicts.map .turn) with ⟨_, later⟩
    have same : calls (happenings ++ verdicts.map .turn) = calls happenings := by
      have none : calls (verdicts.map .turn) = [] :=
        List.filterMap_eq_nil_iff.mpr fun happening listed => by
          rcases List.mem_map.mp listed with ⟨verdict, _, rfl⟩
          rfl
      rw [calls, List.filterMap_append]
      exact (congrArg (_ ++ ·) none).trans (List.append_nil _)
    have nothing : (ran base (happenings ++ verdicts.map .turn)).1.loop.pending = [] := by
      rw [ran, run_append, pending_turns]
      exact List.drop_eq_nil_of_le enough
    rcases used_of_traces later with ⟨used, _, all, settings, _⟩
    rw [settings, all nothing, same]
  · intro options root complaint refused waiter
    simp only [step, Server.handle, Server.introduce, refused]
  · intro value part complaint mentioned refused waiter
    simp only [step, Server.handle, Server.configure, mentioned, refused]
  · rintro before waiter call between rfl configures quiet
    exact run_of_configures _ before between waiter configures quiet

end Service
end CompilerRelay
