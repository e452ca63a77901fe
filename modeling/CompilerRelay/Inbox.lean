import CompilerRelay.Outcome

/-!
Waiters, seen from the side that waits.

A waiter is open until it is told an outcome or stops listening; after either,
nothing that is said to it has an effect.
-/

namespace CompilerRelay

/-- The waiters that were created and those that still listen.  A waiter is a
number, and the next one is the number of those created so far, so no number is
used twice. -/
structure Inbox where
  created : Nat := 0
  listening : List Waiter := []

namespace Inbox

def create (inbox : Inbox) : Inbox × Waiter :=
  (⟨inbox.created + 1, inbox.created :: inbox.listening⟩, inbox.created)

/-- Stop listening.  Says whether the waiter did listen, if it exists. -/
def drop (inbox : Inbox) (waiter : Waiter) : Inbox × Option Bool :=
  if inbox.created ≤ waiter then (inbox, none)
  else ({ inbox with listening := inbox.listening.filter (· != waiter) },
    some (inbox.listening.contains waiter))

def tell (inbox : Inbox) (resolution : Resolution) : Inbox × Bool :=
  ({ inbox with listening := inbox.listening.filter (· != resolution.waiter) },
    inbox.listening.contains resolution.waiter)

/-- Tell several waiters; those that listened are returned. -/
def tellAll (inbox : Inbox) : List Resolution → Inbox × List Resolution
  | [] => (inbox, [])
  | resolution :: rest =>
    let told := inbox.tell resolution
    let others := told.1.tellAll rest
    (others.1, if told.2 then resolution :: others.2 else others.2)

end Inbox
end CompilerRelay
