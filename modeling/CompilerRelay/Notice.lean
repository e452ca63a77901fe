import CompilerRelay.Json.Form
import CompilerRelay.Phase

/-!
Notices: what the editor is told apart from diagnostics.

A compiler may send notifications of its own.  Those that name a message
window of the editor, and are well formed, become that message; all others are
relayed as they are.
-/

namespace CompilerRelay

/-- A message for the user and its number of urgency. -/
structure WindowMessage where
  type : Int
  message : String
  deriving DecidableEq, Repr

namespace WindowMessage

def form : Form WindowMessage :=
  (Form.pure mk).and (Form.required "type" Decoder.int32)
    |>.and (Form.required "message" Decoder.string)

def decode : Decoder WindowMessage :=
  form.decode "struct ShowMessageParams"

def toJson (message : WindowMessage) : Json :=
  .obj [("message", .str message.message), ("type", .int message.type)]

def error (message : String) : WindowMessage :=
  ⟨1, message⟩

def warning (message : String) : WindowMessage :=
  ⟨2, message⟩

end WindowMessage

/-- Something the editor is told apart from diagnostics and answers.  What a
compiler sends is passed on as it is, unless it is a message of the kind that
editors show themselves. -/
inductive Notice where
  | showMessage (message : WindowMessage)
  | logMessage (message : WindowMessage)
  | status (phase : Phase)
  /-- A notification of the compiler that has no other form. -/
  | relay (method : String) (params : Json)
  deriving BEq, Repr

namespace Notice

/-- The notice for a notification of the compiler. -/
def ofCompiler (method : String) (params : Json) : Notice :=
  match method, WindowMessage.decode params with
  | "window/showMessage", .ok message => showMessage message
  | "window/logMessage", .ok message => logMessage message
  | _, _ => relay method params

def method : Notice → String
  | showMessage _ => "window/showMessage"
  | logMessage _ => "window/logMessage"
  | status _ => "compilerBridge/status"
  | relay _ _ => "compilerBridge/notification"

def params : Notice → Json
  | showMessage message => message.toJson
  | logMessage message => message.toJson
  | status phase => .obj [("state", phase.toJson)]
  | relay method params => .obj [("method", .str method), ("params", params)]

def decodeStatus : Decoder Phase :=
  Form.decode (Form.required "state" Phase.decode) "struct CompilerStatusParams"

def decodeRelay : Decoder (String × Json) :=
  Form.decode
    ((Form.pure Prod.mk).and (Form.required "method" Decoder.string)
      |>.and (Form.trailing "params" Decoder.json .null))
    "struct CompilerNotificationParams"

end Notice
end CompilerRelay
