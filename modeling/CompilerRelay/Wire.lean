import CompilerRelay.Rpc.Frame
import CompilerRelay.Session
import CompilerRelay.Text.Utf8

/-!
A session over streams of bytes.

Bytes of the editor are gathered until they make a frame, whatever the pieces
they come in, and each frame is received as a text.  A frame without content
is passed over.
-/

namespace CompilerRelay

/-- A session, and the bytes of a frame that is not complete.  How the bytes of
a frame are spread over reads makes no difference. -/
structure Wire where
  session : Session
  unread : List UInt8 := []

namespace Wire

def receive (session : Session) (body : List UInt8) : Session × List Json :=
  match Text.Utf8.decode? body with
  | some text => session.receive text
  | none => session.fail Rpc.CallErrors.parseError

def receiveAll (session : Session) (stream : List UInt8) : Wire × List Json :=
  match h : Rpc.Frame.cut stream with
  | .incomplete => (⟨session, stream⟩, [])
  | .malformed =>
    let failed := session.fail Rpc.CallErrors.parseError
    (⟨failed.1, []⟩, failed.2)
  | .content body rest =>
    have : rest.length < stream.length := Rpc.Frame.length_lt_of_cut h
    let first := receive session body
    let others := receiveAll first.1 rest
    (others.1, first.2 ++ others.2)
termination_by stream.length

/-- Receive bytes, and say what is to be written. -/
def feed (wire : Wire) (bytes : List UInt8) : Wire × String :=
  let received := receiveAll wire.session (wire.unread ++ bytes)
  (received.1, String.join (received.2.map fun value => Rpc.Frame.encode value.render))

end Wire
end CompilerRelay
