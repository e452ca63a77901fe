import CompilerRelay.CommandLine.Parameter
import CompilerRelay.Text.Similarity

/-!
What can be wrong with a command line.

Some problems come with a line of usage, which mostly shows the parameters that
were given, as far as they are in order.  A long name that is not known may come
with a tip: the known name that is most like it, if one is like it at all.
-/

namespace CompilerRelay
namespace CommandLine

/-- Why a text is no port. -/
inductive PortFault where
  | empty
  | badDigit
  | tooLarge
  | tooSmall
  | outOfRange (number : Int)
  deriving DecidableEq, Repr

namespace PortFault

def message : PortFault → String
  | empty => "cannot parse integer from empty string"
  | badDigit => "invalid digit found in string"
  | tooLarge => "number too large to fit in target type"
  | tooSmall => "number too small to fit in target type"
  | outOfRange number => toString number ++ " is not in 0..=65535"

end PortFault

/-- What is wrong with a command line. -/
inductive Problem where
  | unexpected (argument : List Char) (similar : Option Parameter) (used : List Parameter)
  | withoutValue (parameter : Parameter)
  | needlessValue (value : List Char) (parameter : Parameter) (first : Bool)
  | badPort (value : List Char) (fault : PortFault)
  | repeated (parameter : Parameter)
  | conflict (parameter : Parameter) (others : List Parameter) (used : List Parameter)
  deriving DecidableEq, Repr

namespace Problem

/-- Parameters that exclude another one, at the end of a sentence. -/
def others : List Parameter → String
  | [other] => " '" ++ other.shown ++ "'"
  | several => ":" ++ String.join (several.map fun other => "\n  " ++ other.shown)

def message : Problem → String
  | unexpected argument _ _ => "unexpected argument '" ++ String.ofList argument ++ "' found"
  | withoutValue parameter =>
    "a value is required for '" ++ parameter.shown ++ "' but none was supplied"
  | needlessValue value parameter _ =>
    "unexpected value '" ++ String.ofList value ++ "' for '" ++ parameter.shown
      ++ "' found; no more were expected"
  | badPort value fault =>
    "invalid value '" ++ String.ofList value ++ "' for '" ++ Parameter.port.shown ++ "': "
      ++ fault.message
  | repeated parameter =>
    "the argument '" ++ parameter.shown ++ "' cannot be used multiple times"
  | conflict parameter several _ =>
    "the argument '" ++ parameter.shown ++ "' cannot be used with" ++ others several

/-- The parameter that was perhaps meant. -/
def similar? : Problem → Option Parameter
  | unexpected _ similar _ => similar
  | _ => none

/-- The line of usage, if there is such a line.  A value that is not needed has
the parameter alone shown if it is the first that was looked at, and a choice
of all otherwise. -/
def usage? : Problem → Option Usage
  | unexpected _ _ used => some (.parameters used)
  | needlessValue _ parameter true => some (.parameters [parameter])
  | needlessValue _ parameter false => some (.choice parameter)
  | repeated _ => some (.parameters [])
  | conflict _ _ used => some (.parameters used)
  | withoutValue _ => none
  | badPort _ _ => none

def report (problem : Problem) : String :=
  "error: " ++ problem.message ++ "\n\n"
    ++ (problem.similar?.elim "" fun parameter =>
      "  tip: a similar argument exists: '--" ++ parameter.name ++ "'\n\n")
    ++ (problem.usage?.elim "" fun usage => usage.line ++ "\n\n")
    ++ "For more information, try '--help'.\n"

end Problem

namespace Parameter

/-- How similar a parameter is to a name, if it is similar enough to be worth
a tip: by more than seven tenths. -/
def rating? (name : List Char) (parameter : Parameter) : Option (Parameter × Binary64) := do
  let rating ← Text.similarity? name parameter.name.toList
  if (← Text.share? 7 10).isLess rating then some (parameter, rating) else none

/-- The parameter whose name is most like a name, the last of those that are
equally like it. -/
def mostSimilar? (name : List Char) : Option Parameter :=
  ((all.filterMap (rating? name)).foldl (fun best rating =>
    match best with
    | none => some rating
    | some held => if rating.2.isLess held.2 then best else some rating) none).map Prod.fst

end Parameter
end CommandLine
end CompilerRelay
