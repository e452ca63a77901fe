import CompilerRelay.Toolbox.FileTree
import CompilerRelay.Toolbox.Shell.Condition
import CompilerRelay.Toolbox.Shell.Syntax

/-!
What the shell remembers while it carries out a script.

What is written goes to sinks: the output of the shell itself, the pipes
between commands and the places where the output of commands is collected.
What is read comes from inflows: the input of the shell, pipes and documents.
A stream with a number leads to one of these or to nothing.  Nobody listens to
complaints unless their stream is led elsewhere.
-/

namespace CompilerRelay
namespace Toolbox
namespace Shell

/-- Where a stream leads. -/
inductive Channel where
  | inflow (index : Nat)
  | sink (index : Nat)
  | nothing
  deriving DecidableEq, Repr

/-- Bytes that can be read, and whether no more will come. -/
structure Inflow where
  rest : List Char
  ended : Bool

def Inflow.nothing : Inflow :=
  ⟨[], true⟩

/-- What a name stands for. -/
structure Binding where
  value : Option (List Char) := none
  /-- Programs that are started get it too. -/
  exported : Bool := false
  /-- It can no longer be changed. -/
  fixed : Bool := false

/-- A command in the background that has not ended, or how it ended. -/
structure Task where
  number : Nat
  status : Option Nat
  streams : List (Nat × Channel)

/-- What the shell remembers. -/
structure State where
  /-- The name the script goes by. -/
  name : List Char
  arguments : List (List Char)
  bindings : List (List Char × Binding)
  functions : List (List Char × Command) := []
  directory : Place
  /-- The path of the directory as it was walked. -/
  path : List Char
  streams : List (Nat × Channel)
  inflows : List Inflow
  /-- What was written to which sink, the latest first. -/
  written : List (Nat × List Char) := []
  /-- What the background wrote since the shell last waited for anything. -/
  late : List (Nat × List Char) := []
  /-- How many sinks there are. -/
  sinks : Nat := 1
  /-- The files that were made, with the sinks that hold their contents. -/
  files : List (Place × Nat) := []
  status : Nat := 0
  /-- The status of the command whose output was taken last. -/
  substituted : Nat := 0
  /-- The letters of the options that are set. -/
  options : List Char := []
  /-- A failure is looked at, so it does not end the script. -/
  tested : Bool := false
  /-- Nothing is left to do behind the command. -/
  final : Bool := false
  /-- How many loops surround the command. -/
  loops : Nat := 0
  /-- How many functions are being called. -/
  calls : Nat := 0
  /-- What names stood for before a function made them its own. -/
  locals : Option (List (List Char × Option Binding)) := none
  /-- What to do at the end and on signals. -/
  traps : List (String × List Char) := []
  tasks : List Task := []
  /-- The streams of what goes on in the background of commands that ended. -/
  strangers : List (List (Nat × Channel)) := []
  /-- The argument from which the next option is read, counted from one, and how
  far the one before it was read. -/
  optionIndex : Nat := 1
  optionOffset : Option Nat := none
  /-- What is taken from the rights on files that are made. -/
  mask : Nat := 18
  /-- The status with which the script ends, while its last words are carried out. -/
  leaving : Option Nat := none
  line : Nat := 1
  /-- The command that complaints are about. -/
  command : Option (List Char) := none

/-- Why commands stop before their end. -/
inductive Stop where
  /-- They wait for input that may still come. -/
  | blocked
  /-- They go on for too long. -/
  | exhausted
  | exited
  /-- A mistake, which ends the script unless a command may fail. -/
  | failed
  /-- A program took the place of the shell and ended. -/
  | replaced
  | killed
  | broke (loops : Nat)
  | continued (loops : Nat)
  | returned
  deriving DecidableEq, Repr

/-- Something the shell does. -/
abbrev Act := ExceptT Stop (StateM State)

/-- A way to carry out commands. -/
abbrev Runner := Command → Act Unit

/-! ## Outcome -/

/-- Take a status. -/
def finish (status : Nat) : Act Unit :=
  modify fun s => { s with status }

def succeed : Act Unit :=
  finish 0

/-- Carry something out and mend the state afterwards, however it ended. -/
def mending (act : Act α) (mend : State → State) : Act α := do
  let (result, after) := act.run (← get)
  set (mend after)
  match result with
  | .error stop => throw stop
  | .ok value => return value

/-! ## Streams -/

namespace State

/-- Where a stream leads, if it is open. -/
def channel? (s : State) (stream : Nat) : Option Channel :=
  s.streams.lookup stream

/-- Let a stream lead somewhere, or close it. -/
def withStream (s : State) (stream : Nat) (channel : Option Channel) : State :=
  let others := s.streams.filter fun entry => entry.1 != stream
  { s with streams := channel.elim others fun channel => (stream, channel) :: others }

/-- What was written to a sink. -/
def writtenTo (s : State) (sink : Nat) : List Char :=
  (s.written.filterMap fun entry => if entry.1 = sink then some entry.2 else none).reverse.flatten

def site (s : State) : Site :=
  { place := s.directory, made := s.files.map fun entry => (entry.1, s.writtenTo entry.2) }

/-- The streams of what goes on in the background. -/
def background (s : State) : List (List (Nat × Channel)) :=
  (s.tasks.filter (·.status.isNone)).map (·.streams) ++ s.strangers

/-- What was written in the background comes behind the rest. -/
def settled (s : State) : State :=
  { s with written := s.late ++ s.written, late := [] }

/-- Whether a channel is held in the background. -/
def holds (s : State) (channel : Channel) : Bool :=
  s.background.any fun streams => streams.any (·.2 == channel)

/-- Whether a channel can be reached by anything that goes on. -/
def reaches (s : State) (channel : Channel) : Bool :=
  s.streams.any (·.2 == channel) || s.holds channel

end State

/-- A new sink. -/
def newSink : Act Nat := do
  let s ← get
  set { s with sinks := s.sinks + 1 }
  return s.sinks

/-- A new inflow. -/
def newInflow (rest : List Char) (ended : Bool) : Act Nat := do
  let s ← get
  set { s with inflows := s.inflows ++ [Inflow.mk rest ended] }
  return s.inflows.length

/-- Take what was written to a sink. -/
def takeWritten (sink : Nat) : Act (List Char) := do
  let s ← get
  set { s with written := s.written.filter fun entry => entry.1 != sink }
  return s.writtenTo sink

/-- Write to a stream; says whether that was possible. -/
def writeTo (stream : Nat) (text : List Char) : Act Bool := do
  let s ← get
  match s.channel? stream with
  | some (.sink sink) => do
    unless text.isEmpty do set { s with written := (sink, text) :: s.written }
    return true
  | some .nothing => return true
  | _ => return text.isEmpty

/-- What can be read from a stream. -/
def readable (stream : Nat) : Act Inflow := do
  let s ← get
  match s.channel? stream with
  | some (.inflow index) => return (s.inflows[index]?).getD .nothing
  | _ => return .nothing

/-- Leave only the rest of what can be read from a stream. -/
def leaveRest (stream : Nat) (rest : List Char) : Act Unit :=
  modify fun s =>
    match s.channel? stream with
    | some (.inflow index) =>
      { s with inflows := s.inflows.modify index fun inflow => { inflow with rest } }
    | _ => s

/-! ## Complaints -/

def say (text : List Char) : Act Unit :=
  discard (writeTo 2 (text ++ ['\n']))

/-- Complain, with the name of the script, the line and the command before it. -/
def complain (text : List Char) : Act Unit := do
  let s ← get
  let about := s.command.elim [] fun command => command ++ [':', ' ']
  say (s.name ++ [':', ' '] ++ Nat.toDigits 10 s.line ++ [':', ' '] ++ about ++ text)

/-- Complain about a mistake. -/
def fail (text : List Char) : Act α := do
  complain text
  finish 2
  throw .failed

/-! ## Variables -/

namespace State

def binding? (s : State) (name : List Char) : Option Binding :=
  s.bindings.lookup name

/-- The text of a variable, if it has one. -/
def value? (s : State) (name : List Char) : Option (List Char) :=
  (s.binding? name).bind (·.value)

/-- The text of a variable; an unset one is empty. -/
def value (s : State) (name : List Char) : List Char :=
  (s.value? name).getD []

/-- Let a name stand for something else, or for nothing. -/
def withBinding (s : State) (name : List Char) (binding : Option Binding) : State :=
  let others := s.bindings.filter fun entry => entry.1 != name
  { s with bindings := binding.elim others fun binding => (name, binding) :: others }

/-- Let names stand for what they stood for before. -/
def withBindings (s : State) (before : List (List Char × Option Binding)) : State :=
  before.foldl (fun s entry => s.withBinding entry.1 entry.2) s

def hasOption (s : State) (letter : Char) : Bool :=
  s.options.contains letter

end State

/-- Change what a name stands for, unless it is fixed. -/
def changeBinding (name : List Char) (change : Binding → Binding) : Act Unit := do
  let s ← get
  let binding := (s.binding? name).getD {}
  let next := change binding
  if binding.fixed && next.value != binding.value then fail (name ++ ": is read only".toList)
  set (s.withBinding name (some next))
  if name = "OPTIND".toList then
    let index := ((next.value.bind decimal?).getD 1).toNat
    modify fun s => { s with optionIndex := max index 1, optionOffset := none }

/-- Demand that a text is the name of a variable. -/
def demandName (name : List Char) : Act Unit := do
  unless isName name do fail (name ++ ": bad variable name".toList)

def assign (name value : List Char) : Act Unit := do
  demandName name
  if ((← get).binding? name).any (·.fixed) then fail (name ++ ": is read only".toList)
  changeBinding name fun binding => { binding with value := some value }

/-- What parts fields. -/
def separators : Act (List Char) :=
  return ((← get).value? "IFS".toList).getD [' ', '\t', '\n']

/-- The facts about files, seen from the directory. -/
def facts : Act Condition.Facts :=
  return fileFacts (← get).site

end Shell
end Toolbox
end CompilerRelay
