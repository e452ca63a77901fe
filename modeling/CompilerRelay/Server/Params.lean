import CompilerRelay.Editor.Capability
import CompilerRelay.Server.Basic

/-!
The parameters of an editor's calls.

Each method has a record of parameters, and a call is read from it.  The
records that share the parts of a question about a place are filled from an
object alone, and their shared parts are set aside before they are read.
-/

namespace CompilerRelay
namespace Params

def documentName : Form Uri :=
  Form.required "uri" Uri.decode

def documentNameName : String :=
  "struct TextDocumentIdentifier"

def textDocument : Form Uri :=
  Form.required "textDocument" (documentName.decode documentNameName)

def openedDocument : Form Snapshot :=
  (Form.pure fun uri (_ : String) version text => Snapshot.mk uri version text)
    |>.and (Form.required "uri" Uri.decode)
    |>.and (Form.required "languageId" Decoder.string)
    |>.and (Form.required "version" Decoder.int32)
    |>.and (Form.required "text" Decoder.string)

def opened : Decoder Call :=
  Form.decode
    ((Form.pure Call.opened).and
      (Form.required "textDocument" (openedDocument.decode "struct TextDocumentItem")))
    "struct DidOpenTextDocumentParams"

def versionedDocument : Form (Uri × Int) :=
  (Form.pure Prod.mk).and (Form.required "uri" Uri.decode)
    |>.and (Form.required "version" Decoder.int32)

/-- A change of a document, of which the text counts. -/
def contentChange : Form String :=
  (Form.pure fun (_ : Option Range) (_ : Option Nat) text => text)
    |>.and (Form.optional "range" Range.decode)
    |>.and (Form.optional "rangeLength" Decoder.word32)
    |>.and (Form.required "text" Decoder.string)

def changed : Decoder Call :=
  Form.decode
    ((Form.pure fun (document : Uri × Int) texts => Call.changed document.1 document.2 texts)
      |>.and (Form.required "textDocument"
        (versionedDocument.decode "struct VersionedTextDocumentIdentifier"))
      |>.and (Form.required "contentChanges"
        (Decoder.list (contentChange.decode "struct TextDocumentContentChangeEvent"))))
    "struct DidChangeTextDocumentParams"

def saved : Decoder Call :=
  Form.decode
    ((Form.pure Call.saved).and textDocument |>.and (Form.optional "text" Decoder.string))
    "struct DidSaveTextDocumentParams"

def closed : Decoder Call :=
  Form.decode ((Form.pure Call.closed).and textDocument) "struct DidCloseTextDocumentParams"

def configured : Decoder Call :=
  Form.decode ((Form.pure Call.configured).and (Form.required "settings" Decoder.json))
    "struct DidChangeConfigurationParams"

/-- One URI, bare or in an object, or several in an array. -/
def uris : Decoder (List Uri) :=
  Decoder.firstOf "UriParams"
    [fun value => return [← Uri.decode value],
      fun value => return [← documentName.decodeWith .ofSequence "struct variant" value],
      Decoder.list Uri.decode]

/-- A token that names work in progress. -/
def token : Decoder Unit :=
  Decoder.firstOf "NumberOrString"
    [fun value => do let _ ← Decoder.int32 value, fun value => do let _ ← Decoder.string value]

/-- A place in a document, as it is shared by questions. -/
def place : Form Query :=
  (Form.pure Query.mk)
    |>.and (Form.required "textDocument" (documentName.decodeWith .ofSequence documentNameName))
    |>.and (Form.required "position" (Position.form.decodeWith .ofSequence "struct Position"))

/-- The tokens that may accompany a question. -/
def progress : Form (Option Unit) :=
  Form.optional "workDoneToken" token

def partialResult : Form (Option Unit) :=
  Form.optional "partialResultToken" token

/-- Read the members of an object into one form after the other. -/
def placeWith (name : String) (others : List (Form (Option Unit))) : Decoder Query
  | .obj members => do
    let query ← place.decodeMembers members
    for form in others do
      let _ ← form.decodeMembers members
    return query
  | other => Decoder.wrongType name other

def hover : Decoder Call :=
  fun value => Call.hover <$> placeWith "struct HoverParams" [progress] value

def definition : Decoder Call :=
  fun value =>
    Call.definition <$> placeWith "struct GotoDefinitionParams" [progress, partialResult] value

/-- A command and its arguments, which no command here takes. -/
def command : Form String :=
  (Form.pure fun name (_ : List Json) => name)
    |>.and (Form.required "command" Decoder.string)
    |>.and (Form.trailing "arguments" (Decoder.list Decoder.json) [])

def execute : Decoder Call
  | .obj members => do
    let name ← command.decodeMembers members
    let _ ← progress.decodeMembers members
    return .execute name
  | other => Decoder.wrongType "struct ExecuteCommandParams" other

def folder : Form Uri :=
  (Form.pure fun uri (_ : String) => uri)
    |>.and (Form.required "uri" Uri.decode)
    |>.and (Form.required "name" Decoder.string)

def clientInfo : Form Unit :=
  (Form.pure fun (_ : String) (_ : Option String) => ())
    |>.and (Form.required "name" Decoder.string)
    |>.and (Form.optional "version" Decoder.string)

def trace : Decoder Unit :=
  Decoder.choice [("off", ()), ("messages", ()), ("verbose", ())]

/-- The root of the project: its first folder, or the root that is given. -/
def rootOf (folders : Option (List Uri)) (root : Option Uri) : Option Uri :=
  match folders with
  | some (first :: _) => some first
  | _ => root

def introduction : Form Call :=
  (Form.pure fun (_ : Option Nat) (_ : Option String) root options () (_ : Option Unit) folders
      (_ : Option Unit) (_ : Option String) => Call.introduce options (rootOf folders root))
    |>.and (Form.optional "processId" Decoder.word32)
    |>.and (Form.trailing "rootPath" (Decoder.option Decoder.string) none)
    |>.and (Form.trailing "rootUri" (Decoder.option Uri.decode) none)
    |>.and (Form.optional "initializationOptions" Decoder.json)
    |>.and (Form.required "capabilities" Capability.all)
    |>.and (Form.trailing "trace" (Decoder.option trace) none)
    |>.and (Form.optional "workspaceFolders"
      (Decoder.list (folder.decode "struct WorkspaceFolder")))
    |>.and (Form.optional "clientInfo" (clientInfo.decode "struct ClientInfo"))
    |>.and (Form.optional "locale" Decoder.string)

def initialization : Decoder Call :=
  introduction.decode "struct InitializeParams"

def initialized : Decoder Call :=
  Form.decode (Form.pure Call.initialized) "struct InitializedParams"

/-- The calls with parameters, by the method that makes them. -/
def byMethod : List (String × Decoder Call) := [
  ("initialize", initialization),
  ("initialized", initialized),
  ("textDocument/didOpen", opened),
  ("textDocument/didChange", changed),
  ("textDocument/didSave", saved),
  ("textDocument/didClose", closed),
  ("workspace/didChangeConfiguration", configured),
  ("textDocument/hover", hover),
  ("textDocument/definition", definition),
  ("workspace/executeCommand", execute),
  ("apiAddUri", fun value => Call.addUris <$> uris value),
  ("apiRemUri", fun value => Call.removeUris <$> uris value)]

/-- The calls without parameters, by the method that makes them. -/
def bare : List (String × Call) :=
  [("shutdown", .shutdown), ("internalReady", .internalReady)]

end Params
end CompilerRelay
