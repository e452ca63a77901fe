import CompilerRelay.Editor.Request
import CompilerRelay.Rpc.Message

/-!
The connection to the editor.

The connection decides which messages reach the server: none but the first
call before the server was introduced, none after it was shut down, and no
request whose identifier is in use.  Requests that wait can be canceled, which
answers them and changes nothing else.

An identifier is in use from when a request registers it until a request with
that identifier ends, whichever request it is: a canceled request ends only
when everything that was received has been acted on, and by then the
identifier may be that of a later one.  The later request then waits on without
being registered, so that it can no longer be canceled.
-/

namespace CompilerRelay
namespace Rpc

/-- How far a connection has come. -/
inductive Stage where
  | fresh
  | introduced
  | shutDown
  | closed
  deriving DecidableEq, Repr

namespace CallErrors

def notIntroduced : CallError :=
  ⟨-32002, "Server not initialized", none⟩

def invalidRequest : CallError :=
  ⟨-32600, "Invalid request", none⟩

def parseError : CallError :=
  ⟨-32700, "Parse error", none⟩

def canceled : CallError :=
  ⟨-32800, "Canceled", none⟩

/-- There is no such method, or it is known but not offered. -/
def methodNotFound (method : Option String) : CallError :=
  ⟨-32601, "Method not found", method.map .str⟩

end CallErrors

/-- A request that waits for its answer.  It is found again by the waiter in
`answer`, and canceled by the number of its message. -/
structure Waiting where
  id : Id
  answer : Answer
  /-- The number of the message that asked. -/
  order : Nat

def Waiting.isFor (waiter : Waiter) (request : Waiting) : Bool :=
  match request.answer with
  | .hover own => own == waiter
  | .definition own => own == waiter
  | .status own => own == waiter
  | _ => false

/-- An answer, with the number of the message it belongs to.  A request that is
refused because its identifier is in use has an answer too, and the number tells
the two apart. -/
structure Answered where
  order : Nat
  response : Response

/-- The state of a connection. -/
structure Connection where
  stage : Stage := .fresh
  server : Server
  waiting : List Waiting := []
  /-- The identifiers in use, with the numbers of the messages that they came with. -/
  registered : List (Id × Nat) := []
  /-- The identifiers of canceled requests that have not ended. -/
  ending : List Id := []
  /-- The number of messages so far. -/
  received : Nat := 0
  /-- The number of waiters so far. -/
  waiters : Nat := 0

/-- What a message leads to. -/
structure Reaction where
  connection : Connection
  actions : List Action := []
  answered : List Answered := []

/-- The notifications an editor may send. -/
def notificationMethods : List String := [
  "initialized", "textDocument/didOpen", "textDocument/didChange", "textDocument/didSave",
  "textDocument/didClose", "workspace/didChangeConfiguration", "internalReady", "apiAddUri",
  "apiRemUri", "textDocument/willSave", "workspace/didChangeWorkspaceFolders",
  "workspace/didCreateFiles", "workspace/didRenameFiles", "workspace/didDeleteFiles",
  "workspace/didChangeWatchedFiles"]

/-- The call a method and its parameters make, if the method makes one. -/
def callOf? (method : String) (params : Option Json) : Option (Except CallError Call) :=
  match Params.bare.lookup method, Params.byMethod.lookup method, params with
  | some call, _, none => some (.ok call)
  | some _, _, some given =>
    some (.error (.invalidParams ("Unexpected params: " ++ given.render)))
  | none, some _, none => some (.error (.invalidParams "Missing params field"))
  | none, some decode, some given =>
    some ((decode given).mapError fun complaint => .invalidParams complaint.message)
  | none, none, _ =>
    match EditorRequest.byMethod.lookup method, params with
    | some _, none => some (.error (.invalidParams "Missing params field"))
    | some check, some given =>
      match check given with
      | .ok () => some (.error (CallErrors.methodNotFound none))
      | .error complaint => some (.error (.invalidParams complaint.message))
    | none, _ => none

namespace Connection

/-- An answer to the message at hand, if it is a request. -/
def answerNow (c : Connection) (id : Option Id) (result : Except CallError Json) :
    List Answered :=
  id.toList.map fun id => ⟨c.received, ⟨id, result⟩⟩

/-- Answer waiting requests with an error. -/
def cancelAll (requests : List Waiting) : List Answered :=
  requests.map fun request =>
    ⟨request.order, ⟨request.id, .error CallErrors.canceled⟩⟩

/-- Cancel the waiting requests among those that came with the given numbers. -/
def cancelOrders (c : Connection) (orders : List Nat) : Reaction :=
  let (canceled, others) := c.waiting.partition fun request => orders.contains request.order
  { connection := { c with
      waiting := others
      ending := c.ending ++ canceled.map (·.id) }
    answered := cancelAll canceled }

/-- Cancel the request that is registered with an identifier.  The job that was
submitted for it is carried out all the same. -/
def cancel (c : Connection) (id : Id) : Reaction :=
  let (own, others) := c.registered.partition fun entry => entry.1 == id
  { c with registered := others }.cancelOrders (own.map Prod.snd)

/-- Cancel every request that is registered. -/
def cancelRegistered (c : Connection) : Reaction :=
  { c with registered := [] }.cancelOrders (c.registered.map Prod.snd)

/-- Give up an identifier, as a request with that identifier ends. -/
def release (c : Connection) (id : Id) : Connection :=
  { c with registered := c.registered.filter fun entry => entry.1 != id }

/-- End the requests that were canceled. -/
def settle (c : Connection) : Connection :=
  { c.ending.foldl release c with ending := [] }

/-- Let the server act on a call. -/
def enter (c : Connection) (id : Option Id) (call : Call) : Reaction :=
  let (server, actions, answer) := c.server.handle c.waiters call
  let after := { c with server }
  let wait : Reaction := {
    connection := { after with
      waiters := c.waiters + 1
      waiting := c.waiting ++ id.toList.map (⟨·, answer, c.received⟩)
      registered := c.registered ++ id.toList.map (·, c.received) }
    actions }
  match answer with
  | .silent => { connection := after, actions }
  | .now result => { connection := after, actions, answered := c.answerNow id result }
  | .hover _ => wait
  | .definition _ => wait
  | .status _ => wait

/-- Why a message is refused at this stage, unless it may pass. -/
def barrier? (c : Connection) (method : String) : Option CallError :=
  if method = "initialize" then
    if c.stage = .fresh then none else some CallErrors.invalidRequest
  else match c.stage with
    | .introduced => none
    | .fresh => some CallErrors.notIntroduced
    | _ => some CallErrors.invalidRequest

/-- How the stage changes before a call is looked at and after it succeeded. -/
def advance (c : Connection) (method : String) (succeeded : Bool) : Connection :=
  if method = "shutdown" then { c with stage := .shutDown }
  else if method = "initialize" ∧ succeeded then { c with stage := .introduced }
  else c

/-- Act on a message whose method is known to make a call. -/
def accept (c : Connection) (message : Message) (call : Except CallError Call) : Reaction :=
  let refuse (c : Connection) (error : CallError) : Reaction :=
    { connection := c, answered := c.answerNow message.id (.error error) }
  match c.barrier? message.method with
  | some error => refuse c error
  | none =>
    let c := c.advance message.method false
    if c.registered.any fun entry => some entry.1 == message.id then
      refuse c CallErrors.invalidRequest
    else if notificationMethods.contains message.method ∧ message.id.isSome then
      refuse c CallErrors.invalidRequest
    else if !notificationMethods.contains message.method ∧ message.id.isNone then
      { connection := c }
    else match call with
      | .error error => refuse c error
      | .ok call => (c.advance message.method true).enter message.id call

def act (c : Connection) (message : Message) : Reaction :=
  if message.method = "exit" then { c with stage := .closed }.cancelRegistered
  else if message.method = "$/cancelRequest" then
    if message.id.isSome then
      { connection := c, answered := c.answerNow message.id (.error CallErrors.invalidRequest) }
    else match (Form.required "id" Id.decodeCanceled).decode "struct CancelParams"
        (message.params.getD .null) with
      | .ok id => c.cancel id
      | .error _ => { connection := c }
  else match callOf? message.method message.params with
    | some call => c.accept message call
    | none =>
      if notificationMethods.contains message.method then
        c.accept message (.error CallErrors.invalidRequest)
      else if message.method.startsWith "$/" then { connection := c }
      else
        { connection := c
          answered := c.answerNow message.id
            (.error (CallErrors.methodNotFound (some message.method))) }

/-- Receive a message. -/
def receive (c : Connection) (message : Message) : Reaction :=
  let reaction := c.act message
  { reaction with connection :=
    { reaction.connection with received := c.received + 1 } }

/-- The request that waits with a waiter, and the connection after its end.
There is none if the request was canceled meanwhile. -/
def take (c : Connection) (waiter : Waiter) : Option (Waiting × Connection) :=
  (c.waiting.find? fun request => request.isFor waiter).map fun request =>
    (request, { c with
      waiting := c.waiting.filter fun other => !other.isFor waiter }.release request.id)

/-- Answer the request that waits for the outcome of a job. -/
def resolve (c : Connection) (resolution : Resolution) : Reaction :=
  match c.take resolution.waiter with
  | none => { connection := c }
  | some (request, after) =>
    let (value, log) := match request.answer with
      | .definition _ => Reply.definition resolution.outcome
      | _ => Reply.hover resolution.outcome
    { connection := after
      actions := log.map .log
      answered := [⟨request.order, ⟨request.id, .ok value⟩⟩] }

/-- Answer the request that waits to know how things stand. -/
def report (c : Connection) (waiter : Waiter) (status : Option Status) : Reaction :=
  match c.take waiter with
  | none => { connection := c }
  | some (request, after) =>
    { connection := after
      answered := [⟨request.order, ⟨request.id, .ok ((status.map Status.toJson).getD .null)⟩⟩] }

/-- Whether a notification reaches the editor at this stage. -/
def passes (c : Connection) (method : String) : Bool :=
  match c.stage with
  | .closed => false
  | .fresh => method == "window/showMessage" || method == "window/logMessage"
  | _ => true

/-- The notification an effect sends to the editor. -/
def notificationOf? : Effect → Option (String × Json)
  | .published publication => some ("textDocument/publishDiagnostics", publication.toJson)
  | .notified notice => some (notice.method, notice.params)
  | _ => none

def send (c : Connection) (effect : Effect) : Option Json :=
  match notificationOf? effect with
  | some (method, params) =>
    if c.passes method then some (notification method params) else none
  | none => none

end Connection
end Rpc
end CompilerRelay
