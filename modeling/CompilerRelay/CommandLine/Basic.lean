import CompilerRelay.CommandLine.Problem
import CompilerRelay.Endpoint
import CompilerRelay.Settings

/-!
Reading the command line.

Arguments are read in order, and the first problem that is met is the one that
is told.  A parameter whose value is an argument of its own is looked at only
when the next parameter comes or the arguments end, so a name that is not
known is told before a value that is wrong.  Help and version are shown as
soon as they are met, whatever follows.
-/

namespace CompilerRelay
namespace CommandLine

/-- What the command line settles. -/
structure Options where
  settings : Settings := {}
  endpoint : Endpoint := .stdio
  deriving DecidableEq, Repr, Inhabited

/-- What the program is to do. -/
inductive Plan where
  | serve (options : Options)
  | showHelp
  | showVersion
  | refuse (problem : Problem)
  deriving DecidableEq, Repr

/-- What an argument looks like. -/
inductive Argument where
  /-- Two hyphens, after which no argument is a parameter. -/
  | endOfParameters
  /-- A long name after two hyphens, perhaps with a value after an equals sign. -/
  | long (name : List Char) (value : Option (List Char))
  /-- Letters after one hyphen, of which the first is given here. -/
  | short (letter : Char)
  | plain

namespace Argument

def ofText : List Char → Argument
  | ['-', '-'] => endOfParameters
  | '-' :: '-' :: rest =>
    let name := rest.takeWhile (· != '=')
    match rest.drop name.length with
    | [] => long name none
    | _ :: value => long name (some value)
  | '-' :: letter :: _ => short letter
  | _ => plain

end Argument

/-! ## Ports -/

def digit? (c : Char) : Option Nat :=
  if '0' ≤ c ∧ c ≤ '9' then some (c.toNat - '0'.toNat) else none

/-- Read digits behind a number, which may not exceed a limit. -/
def digitsUpTo (limit : Nat) (exceeded : PortFault) (number : Nat) :
    List Char → Except PortFault Nat
  | [] => .ok number
  | c :: rest =>
    match digit? c with
    | none => .error .badDigit
    | some digit =>
      if limit < number * 10 + digit then .error exceeded
      else digitsUpTo limit exceeded (number * 10 + digit) rest

def signedNumber : List Char → Except PortFault Int
  | [] => .error .empty
  | ['+'] => .error .badDigit
  | ['-'] => .error .badDigit
  | '-' :: digits => (digitsUpTo (Word.size 63) .tooSmall 0 digits).map fun number => -(number : Int)
  | '+' :: digits => (digitsUpTo (Word.size 63 - 1) .tooLarge 0 digits).map Int.ofNat
  | digits => (digitsUpTo (Word.size 63 - 1) .tooLarge 0 digits).map Int.ofNat

/-- Read a port. -/
def port (text : List Char) : Except PortFault Nat := do
  let number ← signedNumber text
  if 0 ≤ number ∧ number ≤ 65535 then return number.toNat
  else throw (.outOfRange number)

namespace Options

/-- Settle what a parameter with a value settles. -/
def set (options : Options) (value : List Char) : Parameter → Except Problem Options
  | .compiler => .ok { options with settings.compiler.command := String.ofList value }
  | .compilerArgument =>
    .ok { options with
      settings.compiler.args := options.settings.compiler.args ++ [String.ofList value] }
  | .diagnosticsSource => .ok { options with settings.diagnosticsSource := String.ofList value }
  | .stdio => .ok { options with endpoint := .stdio }
  | .port =>
    match port value with
    | .ok number => .ok { options with endpoint := .port number }
    | .error fault => .error (.badPort value fault)
  | .pipe =>
    if value.isEmpty then .error (.withoutValue .pipe)
    else .ok { options with endpoint := .pipe (String.ofList value) }
  | .help => .ok options
  | .version => .ok options

end Options

/-! ## Arguments in order -/

/-- How far the command line was read. -/
structure Reading where
  options : Options := {}
  /-- The parameters that were looked at, in the order they came. -/
  used : List Parameter := []
  /-- A parameter that was not looked at yet, with its value once it came. -/
  pending : Option (Parameter × Option (List Char)) := none
  /-- No further argument is a parameter. -/
  ended : Bool := false

namespace Reading

/-- A parameter put behind others, unless it is among them. -/
def including (parameters : List Parameter) (parameter : Parameter) : List Parameter :=
  if parameter ∈ parameters then parameters else parameters ++ [parameter]

/-- Look at a parameter with its value.  One that may come only once is no
longer counted as used when it comes again. -/
def take (reading : Reading) (parameter : Parameter) (value : List Char) :
    Reading × Option Problem :=
  if parameter ∈ reading.used ∧ !parameter.repeats then
    ({ reading with used := reading.used.erase parameter }, some (.repeated parameter))
  else
    let used := including reading.used parameter
    match reading.options.set value parameter with
    | .ok options => ({ reading with options, used }, none)
    | .error problem => ({ reading with used }, some problem)

/-- Look at the parameter that is pending. -/
def resolve (reading : Reading) : Reading × Option Problem :=
  let cleared := { reading with pending := none }
  match reading.pending with
  | none => (cleared, none)
  | some (parameter, none) => (cleared, some (.withoutValue parameter))
  | some (parameter, some value) => cleared.take parameter value

/-- Go on unless there is a problem. -/
def goOn (looked : Reading × Option Problem) : Except Plan Reading :=
  match looked.2 with
  | none => .ok looked.1
  | some problem => .error (.refuse problem)

def flag (reading : Reading) : Parameter → Except Plan Reading
  | .help => .error .showHelp
  | .version => .error .showVersion
  | parameter => goOn (reading.take parameter [])

def long (reading : Reading) (name : List Char) (value : Option (List Char)) :
    Except Plan Reading :=
  match Parameter.ofName? name with
  | none =>
    let similar := Parameter.mostSimilar? name
    .error (.refuse (.unexpected ('-' :: '-' :: name) similar
      (similar.toList.foldl including reading.resolve.1.used)))
  | some parameter =>
    match parameter.placeholder?, value with
    | some _, some value => do goOn ((← goOn reading.resolve).take parameter value)
    | some _, none => do return { ← goOn reading.resolve with pending := some (parameter, none) }
    | none, some value =>
      .error (.refuse (.needlessValue value parameter reading.used.isEmpty))
    | none, none => do (← goOn reading.resolve).flag parameter

def short (reading : Reading) (letter : Char) : Except Plan Reading :=
  match Parameter.ofLetter? letter with
  | some parameter => do (← goOn reading.resolve).flag parameter
  | none => .error (.refuse (.unexpected ['-', letter] none []))

/-- The parameter that waits for its value. -/
def awaiting? (reading : Reading) : Option Parameter :=
  match reading.pending with
  | some (parameter, none) => some parameter
  | _ => none

def step (reading : Reading) (text : List Char) : Except Plan Reading :=
  let unexpected : Except Plan Reading := .error (.refuse (.unexpected text none []))
  if reading.ended then unexpected
  else
    let value (parameter : Parameter) : Except Plan Reading :=
      .ok { reading with pending := some (parameter, some text) }
    match reading.awaiting? with
    | some parameter =>
      if parameter.takesAnyText then value parameter
      else match Argument.ofText text with
        | .endOfParameters => .ok { reading with ended := true }
        | .long name value => reading.long name value
        | .short letter => reading.short letter
        | .plain => value parameter
    | none =>
      match Argument.ofText text with
      | .endOfParameters => .ok { reading with ended := true }
      | .long name value => reading.long name value
      | .short letter => reading.short letter
      | .plain => unexpected

/-- The first parameter that cannot be given with others that were given. -/
def conflict? (reading : Reading) : Option Problem :=
  reading.used.findSome? fun parameter =>
    let others := reading.used.filter parameter.excludes
    if others.isEmpty then none
    else some (.conflict parameter others (reading.used.filter fun given => given ∉ others))

/-- What the program is to do when the arguments have ended. -/
def finish (reading : Reading) : Except Plan Plan := do
  let reading ← goOn reading.resolve
  match reading.conflict? with
  | some problem => return .refuse problem
  | none => return .serve reading.options

end Reading

/-- What the arguments ask the program to do. -/
def plan (arguments : List String) : Plan :=
  match (arguments.foldlM (fun reading argument => reading.step argument.toList) ({} : Reading))
      >>= Reading.finish with
  | .ok plan => plan
  | .error plan => plan

/-! ## What is printed -/

/-- How the program ends that meets no editor: its exit code and what it prints. -/
structure Ending where
  code : Nat
  output : String
  errors : String
  deriving DecidableEq, Repr

namespace Plan

/-- How the program ends when there is nothing to serve. -/
def ending? : Plan → Option Ending
  | showHelp => some ⟨0, helpText, ""⟩
  | showVersion => some ⟨0, versionText, ""⟩
  | refuse problem => some ⟨2, "", problem.report⟩
  | serve options => options.endpoint.trouble?.map fun failure => ⟨1, "", failure.account⟩

end Plan
end CommandLine
end CompilerRelay
