import CompilerRelay.Editor.Range
import CompilerRelay.Log
import CompilerRelay.Outcome

/-!
Replies: what the asker of a question is told.

The outcome of a question becomes a hover or a location.  A failed job and a
null answer give none, and so does an answer that cannot be read, which is
logged as well.
-/

namespace CompilerRelay

/-- A text shown for a place of a document. -/
structure Hover where
  contents : String
  range : Option Range
  deriving DecidableEq, Repr

namespace Hover

def form : Form Hover :=
  (Form.pure mk).and (Form.required "contents" Decoder.string)
    |>.and (Form.trailing "range" (Decoder.option Range.decode) none)

def decode : Decoder Hover :=
  form.decode "struct HoverReply"

def toJson (hover : Hover) : Json :=
  .obj ([("contents", .obj [("kind", .str "markdown"), ("value", .str hover.contents)])]
    ++ (hover.range.map fun range => ("range", range.toJson)).toList)

end Hover

/-- What a question came to: an answer, none, or one that cannot be read. -/
inductive Reply (α : Type) where
  | answer (value : α)
  | nothing
  | malformed (complaint : DecodeError)

namespace Reply

/-- Read the outcome of a question. -/
def ofOutcome (decode : Decoder α) : Outcome → Reply α
  | .error _ => nothing
  | .ok value =>
    if value.isNull then nothing
    else match decode value with
      | .ok read => answer read
      | .error complaint => malformed complaint

def toJson (encode : α → Json) : Reply α → Json
  | answer value => encode value
  | nothing => .null
  | malformed _ => .null

/-- What is logged about a reply to a question of a kind. -/
def log (kind : String) : Reply α → List LogEntry
  | malformed complaint =>
    [.warning ("Malformed " ++ kind ++ " result from compiler: " ++ complaint.message)]
  | _ => []

def hover (outcome : Outcome) : Json × List LogEntry :=
  let reply := ofOutcome Hover.decode outcome
  (reply.toJson Hover.toJson, reply.log "hover")

def definition (outcome : Outcome) : Json × List LogEntry :=
  let reply := ofOutcome Location.decode outcome
  (reply.toJson Location.toJson, reply.log "definition")

end Reply
end CompilerRelay
