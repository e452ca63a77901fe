import CompilerRelay.Json.Form
import CompilerRelay.Uri.Basic

/-!
Places in documents, as editors give them.

Lines and characters are counted from zero and fit 32 bits.  A range ends
before its second position.
-/

namespace CompilerRelay

namespace Uri

def decode : Decoder Uri
  | .str text =>
    match parse text with
    | .ok uri => .ok uri
    | .error fault => .error (.other (fault.message ++ ": " ++ Text.quoted text))
  | other => Decoder.wrongType "a string representing an URL" other

def toJson (uri : Uri) : Json :=
  .str uri.text

end Uri

/-- A position between two characters of a document. -/
structure Position where
  line : Nat
  character : Nat
  deriving DecidableEq, Repr, Inhabited

namespace Position

def form : Form Position :=
  (Form.pure mk).and (Form.required "line" Decoder.word32)
    |>.and (Form.required "character" Decoder.word32)

def decode : Decoder Position :=
  form.decode "struct Position"

def toJson (position : Position) : Json :=
  .obj [("character", .int position.character), ("line", .int position.line)]

end Position

/-- The text between two positions. -/
structure Range where
  start : Position
  stop : Position
  deriving DecidableEq, Repr, Inhabited

namespace Range

def form : Form Range :=
  (Form.pure mk).and (Form.required "start" Position.decode)
    |>.and (Form.required "end" Position.decode)

def decode : Decoder Range :=
  form.decode "struct Range"

def toJson (range : Range) : Json :=
  .obj [("end", range.stop.toJson), ("start", range.start.toJson)]

end Range

/-- A range of a document. -/
structure Location where
  uri : Uri
  range : Range
  deriving DecidableEq, Repr

namespace Location

def form : Form Location :=
  (Form.pure mk).and (Form.required "uri" Uri.decode)
    |>.and (Form.required "range" Range.decode)

def decode : Decoder Location :=
  form.decode "struct Location"

def toJson (location : Location) : Json :=
  .obj [("range", location.range.toJson), ("uri", location.uri.toJson)]

end Location
end CompilerRelay
