/-!
Failures and their causes.

A failure is told in one line, or in several for somebody who reads it on a
terminal.
-/

namespace CompilerRelay

/-- Why something could not be done: causes, the outermost first.  Each cause is
explained by the next one, and no cause is left out when it is told. -/
structure Failure where
  causes : List String
  deriving DecidableEq, Repr

namespace Failure

def text (failure : Failure) : String :=
  ": ".intercalate failure.causes

/-- The wording of a failure in several lines: what failed, and below it why. -/
def account (failure : Failure) : String :=
  match failure.causes with
  | [] => "Error: \n"
  | [what] => "Error: " ++ what ++ "\n"
  | what :: why =>
    "Error: " ++ what ++ "\n\nCaused by:\n" ++ String.join (why.map ("    " ++ · ++ "\n"))

/-- The failure that the texts of its causes describe, if there are any. -/
def ofCauses? : List String → Option Failure
  | [] => none
  | causes => some ⟨causes⟩

end Failure
end CompilerRelay
