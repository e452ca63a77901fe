import CompilerRelay.Supervisor.Basic

/-!
The event loop around the supervisor.

Events wait in a queue and are handled in order.  The world outside says how
launches and dispatches go, and answers effects with further events, which go
to the end of the queue.
-/

namespace CompilerRelay

/-- What lies outside the supervisor, with a state of its own.  It is asked
before an event is handled, and told of the effects afterwards; what it posts
goes behind the events that wait already. -/
structure World (σ : Type) where
  /-- How launches and dispatches would go. -/
  verdict : σ → Verdict
  /-- Take notice of an effect and post events. -/
  react : σ → Effect → σ × List Event

namespace World

def reactAll (world : World σ) (state : σ) : List Effect → σ × List Event
  | [] => (state, [])
  | effect :: rest =>
    let first := world.react state effect
    let others := world.reactAll first.1 rest
    (others.1, first.2 ++ others.2)

end World

/-- The supervisor, the events that wait for it, and the state of the world.
Events are handled in the order in which they were posted, whoever posted them.
-/
structure EventLoop (σ : Type) where
  supervisor : Supervisor
  pending : List Event
  outside : σ

namespace EventLoop

def initial (outside : σ) : EventLoop σ :=
  ⟨.initial, [], outside⟩

/-- Post an event.  After the supervisor has ended, it is only noted. -/
def post (loop : EventLoop σ) (event : Event) : EventLoop σ × List Effect :=
  if loop.supervisor.halted then
    (loop, .logged (.warning "Job scheduler is not running") :: event.unhandled)
  else ({ loop with pending := loop.pending ++ [event] }, [])

/-- Post what a compiler did, and say whether anybody is there to hear it.  The
answer tells the reader of the compiler whether it is worth going on. -/
def emit (loop : EventLoop σ) (generation : Nat) (event : CompilerEvent) : EventLoop σ × Bool :=
  if loop.supervisor.halted then (loop, false)
  else ({ loop with pending := loop.pending ++ [.compiler generation event] }, true)

def turn (world : World σ) (loop : EventLoop σ) : Option (EventLoop σ × List Effect) :=
  match loop.pending with
  | [] => none
  | event :: rest =>
    let stepped := loop.supervisor.step (world.verdict loop.outside) event
    let reacted := world.reactAll loop.outside stepped.2
    some (⟨stepped.1, rest ++ reacted.2, reacted.1⟩, stepped.2)

/-- Handle at most that many events. -/
def turns (world : World σ) : Nat → EventLoop σ → EventLoop σ × List Effect
  | 0, loop => (loop, [])
  | count + 1, loop =>
    match loop.turn world with
    | none => (loop, [])
    | some (next, effects) =>
      let others := turns world count next
      (others.1, effects ++ others.2)

end EventLoop
end CompilerRelay
