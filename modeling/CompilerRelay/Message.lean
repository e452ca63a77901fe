import CompilerRelay.Json.Reader
import CompilerRelay.Notice
import CompilerRelay.Outcome
import CompilerRelay.Text.Blank
import CompilerRelay.Text.Utf8

/-!
Messages of the compiler, one to a line.

A message is an object whose member `type` says which other members count, or
an array that begins with the type.  A line that is no message is tied to a job
when it is at least an object with an identifier; its complaint then fails that
job.  Complaints that arise while the text is read carry their place, and those
about the members of a message that was read in full do not.
-/

namespace CompilerRelay

/-- Something a compiler did.  All but the last come from lines of its output,
and nothing follows its end. -/
inductive CompilerEvent where
  | ready
  | response (id : Nat) (outcome : Outcome)
  /-- Output that belongs to no job. -/
  | unmatched (reason : String)
  | notification (notice : Notice)
  | exited

/-- What a message of the compiler says.  A message without a result or
parameters is read as one where they are null. -/
inductive Message where
  | ready
  | result (id : Nat) (result : Json)
  | error (id : Nat) (message : String)
  | notification (method : String) (params : Json)

namespace Message

/-- The types of messages. -/
inductive Tag where
  | ready
  | result
  | error
  | notification
  deriving DecidableEq, Repr

namespace Tag

def name : Tag → String
  | ready => "ready"
  | result => "result"
  | error => "error"
  | notification => "notification"

def all : List Tag :=
  [ready, result, error, notification]

def ofName (name : String) : Except DecodeError Tag :=
  match all.find? fun tag => tag.name == name with
  | some tag => .ok tag
  | none => .error (.unknownVariant name (all.map Tag.name))

/-- How a message of the type is named in complaints. -/
def variant : Tag → String
  | ready => "CompilerMessage::Ready"
  | result => "CompilerMessage::Result"
  | error => "CompilerMessage::Error"
  | notification => "CompilerMessage::Notification"

end Tag

/-- A message whose type is known and whose other parts are still values. -/
inductive Tagged where
  | members (tag : Tag) (members : List (String × Json))
  | elements (tag : Tag) (elements : List Json)

namespace Tagged

/-- Complain about a value of the wrong kind: a container before it is read,
anything else after. -/
def refuseNext (wanted : String) : Reader α := do
  match ← Reader.peekToken with
  | some '[' => Reader.refuse (.invalidType "sequence" wanted)
  | some '\x7b' => Reader.refuse (.invalidType "map" wanted)
  | _ => do
    let found ← Reader.value Reader.depthLimit
    Reader.refuse (.invalidType found.description wanted)

/-- The type of a message. -/
def tag : Reader Tag := do
  match ← Reader.peekToken with
  | some '"' => do
    Reader.skip
    let name ← Reader.string
    match Tag.ofName name with
    | .ok tag => pure tag
    | .error complaint => Reader.refuse complaint
  | _ => refuseNext "variant identifier"

/-- Complain about the message as a whole, past a closing character if that
comes next. -/
def refuseAtEnd (closing : Char) (complaint : DecodeError) : Reader α := do
  match ← Reader.peekToken with
  | some c => do
    if c = closing then Reader.skip
    Reader.refuse complaint
  | none => Reader.refuse complaint

/-- What was gathered of a message: its type, and the other members from last
to first. -/
abbrev Gathered := Option Tag × List (String × Json)

/-- Gather one member of a message. -/
def gather (gathered : Gathered) (name : String) : Reader Gathered := do
  if name = "type" then
    match gathered.1 with
    | some _ => refuseAtEnd '\x7d' (.duplicateField "type")
    | none => do
      Reader.colon
      let tag ← tag
      pure (some tag, gathered.2)
  else do
    Reader.colon
    let content ← Reader.value (Reader.depthLimit - 1)
    pure (gathered.1, (name, content) :: gathered.2)

/-- A message written as an object, after its opening brace. -/
def ofObject : Reader Tagged := do
  match ← Reader.members gather (none, []) with
  | (none, _) => refuseAtEnd '\x7d' (.missingField "type")
  | (some tag, others) => do
    Reader.skip
    pure (members tag others.reverse)

/-- The elements after the type, up to the closing bracket. -/
def furtherElements : Reader (List Json) := do
  match ← Reader.peekToken with
  | none => Reader.failHere .endInList
  | some ']' => pure []
  | some ',' => do
    Reader.skip
    match ← Reader.peekToken with
    | none => Reader.failHere .endInValue
    | some ']' => Reader.failAtNext .trailingComma
    | some _ => do
      let rest ← get
      Reader.itemsFrom (Reader.value (Reader.depthLimit - 1)) rest.length
  | some _ => Reader.failAtNext .expectedListCommaOrEnd

/-- A message written as an array, after its opening bracket. -/
def ofArray : Reader Tagged := do
  match ← Reader.peekToken with
  | none => Reader.failHere .endInList
  | some ']' => refuseAtEnd ']' (.missingField "type")
  | some _ => do
    let tag ← tag
    let others ← furtherElements
    Reader.skip
    pure (elements tag others)

def reader : Reader Tagged := do
  match ← Reader.peekToken with
  | some '\x7b' => do
    Reader.skip
    ofObject
  | some '[' => do
    Reader.skip
    ofArray
  | _ => refuseNext "internally tagged enum CompilerMessage"

end Tagged

/-- The parts that a message of each type has. -/
def form : Tag → Form Message
  | .ready => Form.pure ready
  | .result =>
    (Form.pure result).and (Form.required "id" Decoder.word64)
      |>.and (Form.trailing "result" Decoder.json .null)
  | .error =>
    (Form.pure error).and (Form.required "id" Decoder.word64)
      |>.and (Form.required "message" Decoder.string)
  | .notification =>
    (Form.pure notification).and (Form.required "method" Decoder.string)
      |>.and (Form.trailing "params" Decoder.json .null)

/-- The first complaint about the members of a message in their order, where a
repeated field counts as one. -/
def complaint? (form : Form Message) :
    List String → List (String × Json) → Option DecodeError
  | _, [] => none
  | seen, (name, value) :: rest =>
    match form.fields.lookup name with
    | none => complaint? form seen rest
    | some check =>
      if seen.contains name then some (.duplicateField name)
      else match check value with
        | some complaint => some complaint
        | none => complaint? form (name :: seen) rest

/-- Read the parts of a message whose type is known. -/
def ofTagged : Tagged → Except DecodeError Message
  | .members tag members =>
    match complaint? (form tag) [] members with
    | some complaint => .error complaint
    | none => (form tag).ofMembers (Json.find? · members)
  | .elements tag elements =>
    (form tag).decodeElements .ofSequence ("struct variant " ++ tag.variant) elements

/-- Read a message; the complaint is given in words. -/
def parse (text : List Char) : Except String Message := do
  let (tagged, rest) ← (Tagged.reader.run text).mapError (·.message text)
  let message ← (ofTagged tagged).mapError DecodeError.message
  let _ ← (Reader.finish.run rest).mapError (·.message text)
  return message

/-- The identifier that a text carries, whatever else is wrong with it as a
message.  The text still has to be one JSON value, and that an object which
holds a number of 64 bits. -/
def recoverId (text : List Char) : Option Nat := do
  let value ← Json.parse? text
  let id ← value.member? "id"
  id.word64?

/-- What a message tells the supervisor. -/
def toEvent : Message → CompilerEvent
  | ready => .ready
  | result id value => .response id (.ok value)
  | error id message => .response id (.error (.rejected message))
  | notification method params => .notification (.ofCompiler method params)

end Message

namespace CompilerEvent

/-- What a line of the compiler tells; a blank line tells nothing. -/
def ofLine (line : List Char) : Option CompilerEvent :=
  let text := Text.trim line
  if text.isEmpty then none
  else match Message.parse text with
    | .ok message => some message.toEvent
    | .error reason =>
      match Message.recoverId text with
      | some id => some (.response id (.error (.garbled reason)))
      | none => some (.unmatched reason)

end CompilerEvent
end CompilerRelay
