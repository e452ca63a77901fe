import CompilerRelay.Editor.Range

/-!
Diagnostics as editors show them.
-/

namespace CompilerRelay

/-- How grave a diagnostic is. -/
inductive Severity where
  | error
  | warning
  | information
  | hint
  deriving DecidableEq, Repr

namespace Severity

def number : Severity → Nat
  | error => 1
  | warning => 2
  | information => 3
  | hint => 4

def decode : Decoder Severity :=
  Decoder.choice
    [("error", error), ("warning", warning), ("information", information), ("hint", hint)]

end Severity

/-- A remark about a range of a document, labelled with where it comes from. -/
structure Diagnostic where
  range : Range
  severity : Severity
  source : String
  message : String
  deriving DecidableEq, Repr

namespace Diagnostic

def toJson (diagnostic : Diagnostic) : Json :=
  .obj [("message", .str diagnostic.message), ("range", diagnostic.range.toJson),
    ("severity", .int diagnostic.severity.number), ("source", .str diagnostic.source)]

end Diagnostic
end CompilerRelay
