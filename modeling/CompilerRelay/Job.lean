import CompilerRelay.Editor.Range

/-!
Jobs: the units of work handed to the compiler.

A request says what is asked, and a job is a request with an identifier.  The
kind of a request decides how it is scheduled, through its category alone.
`Job.line` is the text a compiler receives for a job, without the line feed.
-/

namespace CompilerRelay

/-- How a job is scheduled. -/
inductive Category where
  /-- Compile one document again; a later job takes a queued one's place. -/
  | recompile
  /-- Check the whole project; what is shown is withdrawn first. -/
  | workspace
  /-- A question whose asker waits for the answer. -/
  | query
  /-- The end of the compiler's life. -/
  | lifecycle
  deriving DecidableEq, Repr

namespace Category

def name : Category → String
  | recompile => "recompile"
  | workspace => "workspace"
  | query => "query"
  | lifecycle => "lifecycle"

end Category

/-- What a job asks for. -/
inductive JobKind where
  | internalReady
  | addUri
  | removeUri
  | documentChanged
  | documentSaved
  | hover
  | definition
  | shutdown
  deriving DecidableEq, Repr

namespace JobKind

/-- The name a compiler knows a kind by. -/
def name : JobKind → String
  | internalReady => "internalReady"
  | addUri => "apiAddUri"
  | removeUri => "apiRemUri"
  | documentChanged => "documentChanged"
  | documentSaved => "documentSaved"
  | hover => "hover"
  | definition => "gotoDefinition"
  | shutdown => "shutdown"

def all : List JobKind :=
  [internalReady, addUri, removeUri, documentChanged, documentSaved, hover, definition, shutdown]

def decode : Decoder JobKind :=
  Decoder.choice (all.map fun kind => (kind.name, kind))

def category : JobKind → Category
  | documentChanged => .recompile
  | documentSaved => .recompile
  | internalReady => .workspace
  | addUri => .workspace
  | removeUri => .workspace
  | hover => .query
  | definition => .query
  | shutdown => .lifecycle

/-- Whether a queued job of the kind gives way to a later one. -/
def coalesces (kind : JobKind) : Bool :=
  kind.category == .recompile

/-- Whether somebody waits for the answer. -/
def expectsReply (kind : JobKind) : Bool :=
  kind.category == .query

/-- Whether a successful answer is a report of diagnostics. -/
def reports (kind : JobKind) : Bool :=
  kind.category == .recompile || kind.category == .workspace

end JobKind

/-- A document at the moment a job was formed.  What becomes of the document
later has no influence on the job, which is replaced instead. -/
structure Snapshot where
  uri : Uri
  version : Int
  text : String
  deriving DecidableEq, Repr

namespace Snapshot

def form : Form Snapshot :=
  (Form.pure mk).and (Form.required "uri" Uri.decode)
    |>.and (Form.required "version" Decoder.int32)
    |>.and (Form.required "text" Decoder.string)

def decode : Decoder Snapshot :=
  form.decode "struct DocumentSnapshot"

def toJson (snapshot : Snapshot) : Json :=
  .obj [("text", .str snapshot.text), ("uri", snapshot.uri.toJson),
    ("version", .int snapshot.version)]

end Snapshot

/-- A place that a question is about. -/
structure Query where
  uri : Uri
  position : Position
  deriving DecidableEq, Repr

namespace Query

def form : Form Query :=
  (Form.pure mk).and (Form.required "uri" Uri.decode)
    |>.and (Form.required "position" Position.decode)

def decode : Decoder Query :=
  form.decode "struct PositionQuery"

def toJson (query : Query) : Json :=
  .obj [("position", query.position.toJson), ("uri", query.uri.toJson)]

end Query

/-- A job before it has an identifier.  Its constructors are the kinds of jobs,
each with what a compiler is told of it. -/
inductive Request where
  | internalReady
  | addUri (uri : Uri)
  | removeUri (uri : Uri)
  | documentChanged (document : Snapshot)
  | documentSaved (document : Snapshot)
  | hover (query : Query)
  | definition (query : Query)
  | shutdown
  deriving DecidableEq, Repr

namespace Request

def kind : Request → JobKind
  | internalReady => .internalReady
  | addUri _ => .addUri
  | removeUri _ => .removeUri
  | documentChanged _ => .documentChanged
  | documentSaved _ => .documentSaved
  | hover _ => .hover
  | definition _ => .definition
  | shutdown => .shutdown

/-- The document under which queued requests replace one another.  Changes and
saves of one document share it. -/
def coalesceKey : Request → Option Uri
  | documentChanged document => some document.uri
  | documentSaved document => some document.uri
  | _ => none

/-- What a compiler is told beside the kind. -/
def params : Request → Option Json
  | internalReady => none
  | addUri uri => some (.obj [("uri", uri.toJson)])
  | removeUri uri => some (.obj [("uri", uri.toJson)])
  | documentChanged document => some document.toJson
  | documentSaved document => some document.toJson
  | hover query => some query.toJson
  | definition query => some query.toJson
  | shutdown => none

def decode (kind : JobKind) (params : Json) : Except DecodeError Request :=
  let uri := (params.member? "uri").getD .null
  match kind with
  | .internalReady => .ok internalReady
  | .addUri => addUri <$> Uri.decode uri
  | .removeUri => removeUri <$> Uri.decode uri
  | .documentChanged => documentChanged <$> Snapshot.decode params
  | .documentSaved => documentSaved <$> Snapshot.decode params
  | .hover => hover <$> Query.decode params
  | .definition => definition <$> Query.decode params
  | .shutdown => .ok shutdown

end Request

/-- A request and its identifier, which no other job of a run has. -/
structure Job where
  id : Nat
  request : Request
  deriving DecidableEq, Repr

namespace Job

def kind (job : Job) : JobKind :=
  job.request.kind

def label (job : Job) : String :=
  "#" ++ toString job.id

def toJson (job : Job) : Json :=
  .obj ([("id", .int job.id), ("kind", .str job.kind.name)]
    ++ (job.request.params.map fun params => ("params", params)).toList)

/-- The line a compiler receives for a job. -/
def line (job : Job) : String :=
  job.toJson.render

end Job
end CompilerRelay
