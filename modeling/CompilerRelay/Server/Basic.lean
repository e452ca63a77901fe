import CompilerRelay.About
import CompilerRelay.Reply
import CompilerRelay.Supervisor.Event

/-!
The server: the calls an editor makes.

The server keeps the settings and the texts of open documents, and turns calls
into events for the supervisor.  It never sees the compiler.  A question about
a document, or about how things stand, is answered only when its waiter is
told; every other request is answered at once.
-/

namespace CompilerRelay

/-- An open document. -/
structure Document where
  version : Int
  text : String
  deriving DecidableEq, Repr

/-- Why a request of the editor failed. -/
structure CallError where
  code : Int
  message : String
  data : Option Json := none

namespace CallError

def toJson (error : CallError) : Json :=
  .obj ([("code", .int error.code)]
    ++ (error.data.map fun data => ("data", data)).toList
    ++ [("message", .str error.message)])

def invalidParams (message : String) : CallError :=
  ⟨-32602, message, none⟩

end CallError

/-- A call of the editor, once its parameters were read. -/
inductive Call where
  | introduce (options : Option Json) (root : Option Uri)
  | initialized
  | shutdown
  | opened (document : Snapshot)
  /-- The texts are those of the single changes; the last is the whole text. -/
  | changed (uri : Uri) (version : Int) (texts : List String)
  | saved (uri : Uri) (text : Option String)
  | closed (uri : Uri)
  | configured (settings : Json)
  | internalReady
  | addUris (uris : List Uri)
  | removeUris (uris : List Uri)
  | hover (query : Query)
  | definition (query : Query)
  | execute (command : String)

/-- How a call is answered. -/
inductive Answer where
  /-- Nobody expects an answer. -/
  | silent
  | now (result : Except CallError Json)
  /-- When the waiter is told the outcome of a hover job. -/
  | hover (waiter : Waiter)
  /-- When the waiter is told the outcome of a definition job. -/
  | definition (waiter : Waiter)
  /-- When the waiter is told how things stand. -/
  | status (waiter : Waiter)

/-- What the server does about a call: it posts events and writes log lines. -/
inductive Action where
  | post (event : Event)
  | log (entry : LogEntry)

/-- The settings and the open documents.  The supervisor knows neither: each
event brings what is needed of them, as it is when the event is posted. -/
structure Server where
  settings : Settings
  documents : List (Uri × Document)

namespace Server

def initial (settings : Settings) : Server :=
  ⟨settings, []⟩

def restartCommand : String :=
  "compilerBridge.restart"

def statusCommand : String :=
  "compilerBridge.status"

/-- What the server can do, as it tells the editor. -/
def capabilities : Json :=
  .obj [
    ("definitionProvider", .bool true),
    ("executeCommandProvider",
      .obj [("commands", .arr [.str restartCommand, .str statusCommand])]),
    ("hoverProvider", .bool true),
    ("textDocumentSync", .obj [
      ("change", .int 1),
      ("openClose", .bool true),
      ("save", .obj [("includeText", .bool true)])])]

def introduction : Json :=
  .obj [
    ("capabilities", capabilities),
    ("serverInfo", .obj [("name", .str About.name), ("version", .str About.version)])]

def document? (server : Server) (uri : Uri) : Option Document :=
  server.documents.lookup uri

def remember (server : Server) (uri : Uri) (document : Document) : Server :=
  { server with
    documents := (uri, document) :: server.documents.filter fun entry => entry.1 != uri }

def forget (server : Server) (uri : Uri) : Server :=
  { server with documents := server.documents.filter fun entry => entry.1 != uri }

private def note (text : String) : Action :=
  .log (.info text)

private def warn (text : String) : Action :=
  .log (.warning text)

private def submit (request : Request) : Action :=
  .post (.submit request none)

/-- Take over settings that come with the first call, and the project's root. -/
def introduce (server : Server) (options : Option Json) (root : Option Uri) :
    Server × List Action :=
  let refined := match options with
    | none => (server.settings, [])
    | some options =>
      match server.settings.refine options with
      | .ok settings => (settings, [])
      | .error complaint =>
        (server.settings, [warn ("Ignoring invalid initializationOptions: " ++ complaint.message)])
  ({ server with settings := refined.1.withRoot (root.bind Uri.filePath?) }, refined.2)

/-- Take over changed settings of the editor, if they mention this program. -/
def configure (server : Server) (settings : Json) : Server × List Action :=
  match settings.member? Settings.sectionName with
  | none => (server, [])
  | some part =>
    match server.settings.refine part with
    | .ok settings => ({ server with settings }, [])
    | .error complaint =>
      (server, [warn ("Failed to parse configuration: " ++ complaint.message)])

/-- The job for a document that was saved: the text comes with the call or is
the one remembered, and so is the version. -/
def savedDocument? (server : Server) (uri : Uri) (text : Option String) : Option Snapshot :=
  match text, server.document? uri with
  | some text, stored => some ⟨uri, (stored.map (·.version)).getD 0, text⟩
  | none, some stored => some ⟨uri, stored.version, stored.text⟩
  | none, none => none

/-- Act on a call.  The waiter is used by calls that wait. -/
def handle (server : Server) (waiter : Waiter) : Call → Server × List Action × Answer
  | .introduce options root =>
    let introduced := server.introduce options root
    (introduced.1, introduced.2, .now (.ok introduction))
  | .initialized =>
    (server, [note "Compiler bridge initialized", .post (.launch server.settings)], .silent)
  | .shutdown => (server, [note "Shutdown requested", submit .shutdown], .now (.ok .null))
  | .opened document =>
    (server.remember document.uri ⟨document.version, document.text⟩,
      [note ("Document opened: " ++ document.uri.text), submit (.documentChanged document)],
      .silent)
  | .changed uri version texts =>
    match texts.getLast? with
    | none => (server, [], .silent)
    | some text =>
      (server.remember uri ⟨version, text⟩,
        [submit (.documentChanged ⟨uri, version, text⟩)], .silent)
  | .saved uri text =>
    let noted := note ("Document saved: " ++ uri.text)
    match server.savedDocument? uri text with
    | some document => (server, [noted, submit (.documentSaved document)], .silent)
    | none => (server, [noted, warn ("Document not found in storage: " ++ uri.text)], .silent)
  | .closed uri => (server.forget uri, [note ("Document closed: " ++ uri.text)], .silent)
  | .configured settings =>
    let configured := server.configure settings
    (configured.1, note "Configuration changed" :: configured.2, .silent)
  | .internalReady =>
    (server, [note "Client signalled internalReady", submit .internalReady], .silent)
  | .addUris uris =>
    (server, uris.flatMap fun uri =>
      [note ("URI added to project: " ++ uri.text), submit (.addUri uri)], .silent)
  | .removeUris uris =>
    (server, uris.flatMap fun uri =>
      [note ("URI removed from project: " ++ uri.text), submit (.removeUri uri)], .silent)
  | .hover query => (server, [.post (.submit (.hover query) (some waiter))], .hover waiter)
  | .definition query =>
    (server, [.post (.submit (.definition query) (some waiter))], .definition waiter)
  | .execute command =>
    if command = restartCommand then
      (server, [.post (.restart server.settings)], .now (.ok .null))
    else if command = statusCommand then (server, [.post (.status waiter)], .status waiter)
    else (server, [], .now (.error (.invalidParams ("Unknown command: " ++ command))))

end Server
end CompilerRelay
