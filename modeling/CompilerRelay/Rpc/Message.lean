import CompilerRelay.Json.Reader
import CompilerRelay.Server.Params

/-!
The messages of the editor connection.

A message of the editor is a request when it has an identifier, which may be
null, and a notification otherwise.  What the editor sends may also be an
answer, but the program asks nothing, so answers are only told from messages.
-/

namespace CompilerRelay
namespace Rpc

/-- The identifier of a request. -/
inductive Id where
  | number (value : Int)
  | name (value : String)
  | null
  deriving DecidableEq, Repr

namespace Id

def decode : Decoder Id :=
  Decoder.firstOf "Id"
    [fun value => number <$> Decoder.integer "i64" (-Word.size 63) (Word.size 63 - 1) value,
      fun value => name <$> Decoder.string value,
      fun value => if value.isNull then .ok null else Decoder.wrongType "unit" value]

/-- The identifier of a request that is to be canceled, which is a name or a
number of 32 bits. -/
def decodeCanceled : Decoder Id :=
  Decoder.firstOf "NumberOrString"
    [fun value => number <$> Decoder.int32 value, fun value => name <$> Decoder.string value]

def toJson : Id → Json
  | number value => .int value
  | name value => .str value
  | null => .null

end Id

/-- A message of the editor. -/
structure Message where
  method : String
  params : Option Json
  id : Option Id

namespace Message

/-- The version of the connection's rules. -/
def version : Decoder Unit
  | .str "2.0" => .ok ()
  | .str _ => .error (.other "expected JSON-RPC version \"2.0\"")
  | other => Decoder.wrongType "a string" other

def form : Form Message :=
  (Form.pure fun () method params id => Message.mk method params id)
    |>.and (Form.required "jsonrpc" version)
    |>.and (Form.trailing "method" Decoder.string "")
    |>.and (Form.trailing "params" (fun value => .ok (some value.sorted)) none)
    |>.and (Form.trailing "id" (fun value => some <$> Id.decode value) none)

/-- Read a message as it is written. -/
def decode : Decoder Message
  | .obj members => form.decodeOnce members
  | other => form.decode "struct Request" other

end Message

namespace Answer

/-- What tells an answer from a message, apart from its outcome. -/
def head : Form Id :=
  (Form.pure fun () id => id)
    |>.and (Form.required "jsonrpc" Message.version)
    |>.and (Form.required "id" Id.decode)

/-- The outcome of a call that went well. -/
def result : Form Json :=
  (Form.pure id).and (Form.required "result" Decoder.json)

/-- An error, as the members of an object that has no others. -/
def errorBody : Form Unit :=
  (Form.pure fun _ _ _ => ())
    |>.and (Form.required "code" (Decoder.integer "i64" (-Word.size 63) (Word.size 63 - 1)))
    |>.and (Form.required "message" Decoder.string)
    |>.and (Form.optional "data" Decoder.json)

def error : Decoder Unit
  | .obj members =>
    if members.all fun member => (errorBody.fields.lookup member.1).isSome then
      errorBody.decodeOnce members
    else .error (.other "unknown field")
  | other => errorBody.decode "struct Error" other

/-- The outcome of a call that failed. -/
def failure : Form Unit :=
  (Form.pure id).and (Form.required "error" error)

/-- Whether members make an answer, which the program never waits for.  It
names the call and tells one outcome at least, and one that counts is told
once. -/
def isMadeOf (members : List (String × Json)) : Bool :=
  (head.decodeOnce members).isOk
    && ((result.decodeOnce members).isOk || (failure.decodeOnce members).isOk)

end Answer

/-- What the editor sends. -/
inductive Incoming where
  | answer
  | message (message : Message)

namespace Incoming

/-- Read what the editor sends, as it is written.  What can be an answer is one,
even if it names a method as well; nothing here asks the editor anything, so
answers are ignored. -/
def decode (written : Json) : Except DecodeError Incoming :=
  match written with
  | .obj members =>
    if Answer.isMadeOf members then .ok answer else message <$> Message.decode written
  | _ => message <$> Message.decode written

end Incoming

/-- An answer to a request of the editor. -/
structure Response where
  id : Id
  result : Except CallError Json

namespace Response

def toJson (response : Response) : Json :=
  match response.result with
  | .ok value =>
    .obj [("id", response.id.toJson), ("jsonrpc", .str "2.0"), ("result", value)]
  | .error error =>
    .obj [("error", error.toJson), ("id", response.id.toJson), ("jsonrpc", .str "2.0")]

end Response

def notification (method : String) (params : Json) : Json :=
  .obj [("jsonrpc", .str "2.0"), ("method", .str method), ("params", params)]

end Rpc
end CompilerRelay
