import CompilerRelay.Json.Decoder

/-!
The phases of the job queue, as the editor is told of them.
-/

namespace CompilerRelay

/-- Where the job queue stands with its compiler.  The editor is told of it when
a compiler is started, says that it is ready, or is lost, and not when jobs come
and go. -/
inductive Phase where
  /-- The compiler has not said yet that it is ready. -/
  | notReady
  /-- No job is in flight and one could be handed over. -/
  | ready
  /-- One job is in flight. -/
  | busy
  /-- The compiler is gone until the next restart. -/
  | exited
  deriving DecidableEq, Repr

namespace Phase

def name : Phase → String
  | notReady => "notReady"
  | ready => "ready"
  | busy => "busy"
  | exited => "exited"

def decode : Decoder Phase :=
  Decoder.choice ([notReady, ready, busy, exited].map fun phase => (phase.name, phase))

def toJson (phase : Phase) : Json :=
  .str phase.name

end Phase
end CompilerRelay
