import CompilerRelay.Compiler.Child
import CompilerRelay.Rpc.Connection

/-!
A session: an editor at one end, running compilers at the other.

Each text that the editor sends is acted on to its end, and what it leads to
is sent back in order.  A text that is no message ends the session, and so
does the message that says so.
-/

namespace CompilerRelay

/-- A connection, the supervisor behind it, and the running compilers.  Messages
are acted on one at a time. -/
structure Session where
  connection : Rpc.Connection
  loop : EventLoop Compiler.Workshop
  ended : Bool

namespace Session

def initial (settings : Settings) : Session where
  connection := { server := .initial settings }
  loop := .initial []
  ended := false

/-- How many events are handled before the session stops to wait for more. -/
def patience : Nat := 100000

/-- What is sent to the editor for an effect. -/
def relay (connection : Rpc.Connection) (effect : Effect) : Rpc.Connection × List Json :=
  let reaction : Rpc.Reaction := match effect with
    | .resolved resolution => connection.resolve resolution
    | .reported waiter status => connection.report waiter status
    | _ => { connection }
  (reaction.connection, (connection.send effect).toList
    ++ reaction.answered.map fun answered => answered.response.toJson)

def relayAll (connection : Rpc.Connection) : List Effect → Rpc.Connection × List Json
  | [] => (connection, [])
  | effect :: rest =>
    let first := relay connection effect
    let others := relayAll first.1 rest
    (others.1, first.2 ++ others.2)

/-- Let the supervisor handle what was posted. -/
def settle (session : Session) : Session × List Json :=
  let (loop, effects) := session.loop.turns Compiler.Workshop.world patience
  let (connection, sent) := relayAll session.connection effects
  ({ session with connection := connection.settle, loop }, sent)

def perform (session : Session) : List Action → Session × List Json
  | [] => (session, [])
  | .log _ :: rest => session.perform rest
  | .post event :: rest =>
    let (loop, effects) := session.loop.post event
    let (connection, sent) := relayAll session.connection effects
    let others := { session with connection, loop }.perform rest
    (others.1, sent ++ others.2)

def act (session : Session) (message : Rpc.Message) : Session × List Json :=
  let reaction := session.connection.receive message
  let answers := reaction.answered.map fun answered => answered.response.toJson
  let (posted, sent) := { session with connection := reaction.connection }.perform reaction.actions
  let (settled, others) := posted.settle
  ({ settled with ended := reaction.connection.stage = .closed }, answers ++ sent ++ others)

/-- End the session with an error that answers no request in particular. -/
def fail (session : Session) (error : CallError) : Session × List Json :=
  ({ session with ended := true }, [(Rpc.Response.mk .null (.error error)).toJson])

/-- Receive a text from the editor.  An empty one is passed over, and so is an
answer.  A value that is no message is told before what is behind it. -/
def receive (session : Session) (text : List Char) : Session × List Json :=
  if session.ended ∨ text.isEmpty then (session, [])
  else match Json.beginning? text with
    | none => session.fail Rpc.CallErrors.parseError
    | some (written, behind) =>
      match Rpc.Incoming.decode written with
      | .error _ => session.fail Rpc.CallErrors.invalidRequest
      | .ok incoming =>
        if (Reader.finish.run behind).isOk then
          match incoming with
          | .answer => (session, [])
          | .message message => session.act message
        else session.fail Rpc.CallErrors.parseError

end Session
end CompilerRelay
