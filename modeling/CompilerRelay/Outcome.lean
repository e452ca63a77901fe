import CompilerRelay.Json.Value

/-!
How jobs end.

A job ends with the value its compiler answered or with a reason why there is
none.
-/

namespace CompilerRelay

/-- Why a job has no answer. -/
inductive JobError where
  /-- There is no compiler to answer. -/
  | unavailable
  /-- The compiler's answer could not be read. -/
  | garbled (reason : String)
  /-- The compiler answered with an error. -/
  | rejected (message : String)
  /-- A later job took its place. -/
  | superseded
  deriving DecidableEq, Repr

namespace JobError

def message : JobError → String
  | unavailable => "compiler unavailable"
  | garbled reason => "protocol error: " ++ reason
  | rejected message => "compiler error: " ++ message
  | superseded => "superseded by a newer job"

end JobError

/-- How a job ended. -/
abbrev Outcome := Except JobError Json

/-- The number of somebody who waits. -/
abbrev Waiter := Nat

/-- What a waiter is told. -/
structure Resolution where
  waiter : Waiter
  outcome : Outcome

end CompilerRelay
