import CompilerRelay.Toolbox.LineEditor.Reader
import CompilerRelay.Toolbox.Shell.Builtin
import CompilerRelay.Toolbox.Shell.Redirection

/-!
Carrying out commands.

A command's words are expanded first, then its redirections and assignments are
made, and then the function, the shell's own command or the program of its name
is called.  Commands are carried out with a bound on how deep they are nested;
a script that goes deeper is taken as one that goes on for ever.
-/

namespace CompilerRelay
namespace Toolbox
namespace Shell

/-! ## How a shell is started -/

/-- Where the commands of a shell come from. -/
inductive ScriptSource where
  | text (script : List Char)
  | file (path : List Char)
  | input

/-- What a shell was started with. -/
structure Invocation where
  called : List Char
  source : ScriptSource
  name : List Char
  arguments : List (List Char)
  options : List Char

/-- Read the arguments of a shell. -/
def Invocation.read (called : List Char) (arguments : List (List Char)) :
    Except (List Char) Invocation := do
  let o ← readOptions ['c'] ⟨[], [], false, none⟩ arguments
  if o.extra.isSome then
    match o.arguments with
    | [] => throw "-c requires an argument".toList
    | [script] => return ⟨called, .text script, called, [], o.letters⟩
    | script :: name :: rest => return ⟨called, .text script, name, rest, o.letters⟩
  else match o.arguments with
    | [] => return ⟨called, .input, called, [], 's' :: o.letters⟩
    | file :: rest =>
      if o.letters.contains 's' then return ⟨called, .input, called, file :: rest, o.letters⟩
      else return ⟨called, .file file, file, rest, o.letters⟩

/-- The variables that every shell has. -/
def initialBindings : List (List Char × Binding) :=
  [("IFS", " \t\n"), ("OPTIND", "1"), ("PS1", "# "), ("PS2", "> "), ("PS4", "+ ")].map
    fun (entry : String × String) => (entry.1.toList, { value := some entry.2.toList })

/-- A shell before its first command, for one that is started by another. -/
def State.startedBy (s : State) (invocation : Invocation) : State :=
  { s with
    name := invocation.name, arguments := invocation.arguments, options := invocation.options
    bindings := s.bindings.filter (·.2.exported) ++ initialBindings
    functions := [], locals := none, tasks := [], status := 0, substituted := 0, tested := false
    loops := 0, optionIndex := 1, optionOffset := none, leaving := none, line := 1
    command := none }

/-- Carry out the commands that come on the input, each as soon as it is complete. -/
def runInput (run : Runner) : Nat → Nat → Act Unit
  | 0, _ => throw .exhausted
  | bound + 1, line => do
    let input ← readable 0
    let unfinished := if input.ended then [] else (input.rest.reverse.takeWhile (· != '\n')).reverse
    let text := input.rest.take (input.rest.length - unfinished.length)
    match Reader.commandLine.run { rest := text, line } with
    | .error mistake =>
      let mayGoOn := match mistake.fault with
        | .unexpected text _ => text == Reader.named []
        | .unterminatedQuote => true
        | .missing _ => true
        | _ => false
      if mayGoOn && !input.ended then throw .blocked
      else do
        modify fun s => { s with line := mistake.line }
        fail mistake.fault.message
    | .ok (none, _) => if input.ended then return () else throw .blocked
    | .ok (some command, next) => do
      leaveRest 0 (next.rest ++ unfinished)
      run command
      runInput run bound next.line

def runScript (run : Runner) (invocation : Invocation) : Act Unit :=
  withLastWords run do
    match invocation.source with
    | .text script => runText run true script
    | .input => runInput run ((← readable 0).rest.length + 2) 1
    | .file path =>
      match (← get).site.resolve path with
      | .ok (_, .made contents) => runText run true contents
      | .ok _ => finish 126
      | .error fault => do
        modify fun s => { s with name := invocation.called, line := 0 }
        fail (openingFault false path fault)

/-! ## Programs -/

/-- Let a filter read and write.  Of what is not the shell's own input whole blocks
are read. -/
def filter (called : List Char) (f : Filter) : Act Unit := do
  modify State.settled
  let s ← get
  if (s.channel? 1).isNone then finish 1
  else do
    let input ← readable 0
    let done := f input.rest input.ended
    let used := input.rest.length - done.rest.length
    let blocks := (used + blockSize - 1) / blockSize * blockSize
    let own := s.channel? 0 == some (.inflow 0)
    leaveRest 0 (if own then done.rest else input.rest.drop blocks)
    let closed := done.reads && (s.channel? 0).isNone
    for complaint in done.complaints do say (called ++ ": ".toList ++ complaint)
    if closed then say (called ++ ": -: Bad file descriptor".toList)
    let possible ← writeTo 1 done.output
    if done.done then finish (if possible && !closed then done.status else 1) else throw .blocked

/-- Whether a pause is short enough to be waited for. -/
def isShort (duration : List Char) : Bool :=
  let digits := duration.takeWhile Char.isDigit
  digits.all (· == '0') && (!digits.isEmpty || duration.head? == some '.')

def callShell (run : Runner) (called : List Char) (arguments : List (List Char)) : Act Unit := do
  match Invocation.read called arguments with
  | .error complaint => do
    say (called ++ ": 0: ".toList ++ complaint)
    finish 2
  | .ok invocation => do
    let s ← get
    match ← apart (s.final && s.traps.isEmpty) (·.startedBy invocation) (runScript run invocation) with
    | some .killed => return ()
    | some stop => throw stop
    | none => return ()

/-- Call a program by the name under which it was asked for. -/
def callProgram (run : Runner) (called name : List Char) (arguments : List (List Char)) :
    Act Unit := do
  let site := (← get).site
  match String.ofList name with
  | "cat" => filter called (copying site arguments)
  | "head" => filter called (selecting site arguments)
  | "sed" => filter called (LineEditor.editing site arguments)
  | "echo" => filter called (write (programSpoken arguments))
  | "pwd" => filter called (write (site.place.text ++ ['\n']))
  | "printf" =>
    let formatting (format : List Char) (arguments : List (List Char)) : Filter :=
      let printing := formatted true format arguments
      fun input _ =>
        { output := printing.text, rest := input, done := true, status := printing.status true
          complaints := printing.complaints }
    match arguments with
    | ['-', '-'] :: format :: rest => filter called (formatting format rest)
    | format :: rest => filter called (formatting format rest)
    | [] => filter called (refuse 1 "missing operand".toList)
  | "true" => succeed
  | "false" => finish 1
  | "sleep" => if arguments.all isShort then succeed else throw .blocked
  | "test" => condition arguments
  | "[" => condition arguments.dropLast
  | _ => callShell run called arguments
where
  condition (words : List (List Char)) : Act Unit := do
    match Condition.holds (← facts) words with
    | .ok holds => finish (if holds then 0 else 1)
    | .error complaint => do
      say (called ++ ": ".toList ++ complaint)
      finish 2

/-! ## Simple commands -/

/-- Make assignments. -/
def assignAll (run : Runner) (exported : Bool) : List (List Char × Word) → Act Unit
  | [] => return ()
  | (name, word) :: rest => do
    assign name (← expandAssigned run word)
    if exported then changeBinding name fun binding => { binding with exported := true }
    assignAll run exported rest

/-- The commands whose arguments may be assignments. -/
def assigningNames : List String :=
  ["export", "local", "readonly"]

/-- The fields of arguments, where an assignment stays one field. -/
def expandAssigning (run : Runner) : List Word → Act (List (List Char))
  | [] => return []
  | word :: rest => do
    let fields ← match Reader.assignment? word with
      | some (name, value) => do
        let text ← expandAssigned run value
        pure [name ++ '=' :: text]
      | none => expandFields run word
    return fields ++ (← expandAssigning run rest)

def expandCommand (run : Runner) : List Word → Act (List (List Char))
  | [] => return []
  | word :: rest => do
    let fields ← expandFields run word
    let others ← match fields with
      | [] => expandCommand run rest
      | [name] =>
        if assigningNames.contains (String.ofList name) then expandAssigning run rest
        else if name = "command".toList then expandCommand run rest
        else expandAll run rest
      | _ => expandAll run rest
    return fields ++ others

/-- How many functions may be called inside one another. -/
def callLimit : Nat := 1000

def callFunction (run : Runner) (body : Command) (arguments : List (List Char)) : Act Unit := do
  let s ← get
  if callLimit ≤ s.calls then
    fail "Maximum function recursion depth (1000) reached".toList
  let (result, after) := (run body).run
    { s with
      arguments, calls := s.calls + 1, loops := 0, locals := some [], final := false, optionIndex := 1
      optionOffset := none }
  let left : State :=
    { after with
      arguments := s.arguments, calls := s.calls, loops := s.loops, locals := s.locals, final := s.final
      optionIndex := s.optionIndex, optionOffset := s.optionOffset }
  set (left.withBindings (after.locals.getD []))
  match result with
  | .error .returned => return ()
  | .error stop => throw stop
  | .ok () => return ()

/-- Call a command of the shell.  A mistake ends the script unless the command may
fail. -/
def callBuiltin (run : Runner) (mayFail : Bool) (name : List Char)
    (arguments : List (List Char)) : Act Unit := do
  let s ← get
  let (result, after) := (builtin run (String.ofList name) arguments).run
    { s with command := some name }
  set { after with command := s.command }
  match result with
  | .error .failed => if mayFail then return () else throw .failed
  | .error stop => throw stop
  | .ok () => return ()

/-- Complain about a command that there is not. -/
def missing (name : List Char) (fault : PathFault) : Act Unit := do
  let found := match fault with
    | .denied => true
    | .isDirectory => true
    | _ => false
  complain (name ++ if found then ": Permission denied".toList else ": not found".toList)
  finish (if found then 126 else 127)

/-- Let a program take the place of the shell. -/
def replaceShell (run : Runner) (name : List Char) (arguments : List (List Char)) : Act Unit := do
  let s ← get
  match s.program name with
  | .program program => do
    set { s with traps := s.traps.filter (·.2.isEmpty), final := true }
    callProgram run name program arguments
    throw .replaced
  | .unusable fault => do
    set { s with command := some "exec".toList }
    missing name fault
    throw .exited
  | _ => return ()

/-- Call what a command's name stands for.  Behind the word that asks for it, no
function is called and a mistake may be made. -/
def callTarget (run : Runner) (plain : Bool) (name : List Char) (arguments : List (List Char)) :
    Act Unit := do
  let s ← get
  match s.target (!plain) name with
  | .special => callBuiltin run plain name arguments
  | .ordinary => callBuiltin run true name arguments
  | .function body => callFunction run body arguments
  | .program program => callProgram run name program arguments
  | .unusable fault => missing name fault

/-- What a command asks for by the word that leaves functions out. -/
inductive PlainCall where
  | call (words : List (List Char))
  | named (words : List (List Char))
  | described (words : List (List Char))

/-- Read the arguments of the word that leaves functions out. -/
def PlainCall.read : List (List Char) → PlainCall
  | ['-', 'p'] :: rest => read rest
  | ['-', '-'] :: rest => call rest
  | ['-', 'v'] :: rest => named rest
  | ['-', 'V'] :: rest => described rest
  | words => call words

/-- Carry out a command with its fields.  A special command keeps its assignments
and ends the script if its streams cannot be redirected. -/
def invoke (run : Runner) (assignments : List (List Char × Word)) (redirects : List Redirect)
    (plain : Bool) (name : List Char) (arguments : List (List Char)) : Act Unit := do
  let s ← get
  let target := s.target (!plain) name
  let special := !plain && (target matches .special)
  let inPlace := s.final && s.traps.isEmpty && (target matches .program _)
  let before := if special then [] else assignments.map fun a => (a.1, s.binding? a.1)
  if name = "exec".toList then do
    let possible ← redirectAll run redirects
    if possible then do
      assignAll run true assignments
      match arguments with
      | [] => succeed
      | program :: rest => replaceShell run program rest
    else if special then throw .failed
  else
    mending (redirecting run inPlace redirects fun possible => do
        if possible then do
          assignAll run true assignments
          callTarget run plain name arguments
        else if special then throw .failed)
      (·.withBindings before)

/-- Show a command before it is carried out, if that is asked for. -/
def trace (assignments : List (List Char × Word)) (fields : List (List Char)) : Act Unit := do
  let s ← get
  if s.hasOption 'x' then
    let assigned := assignments.map fun (name, word) => name ++ '=' :: plainText word
    say (s.value "PS4".toList ++ [' '].intercalate (assigned ++ fields))

def simple (run : Runner) (line : Nat) (assignments : List (List Char × Word))
    (words : List Word) (redirects : List Redirect) : Act Unit := do
  modify fun s => { s with line, substituted := 0 }
  let fields ← expandCommand run words
  trace assignments fields
  match fields with
  | [] =>
    redirecting run false redirects fun possible => do
      if possible then do
        assignAll run false assignments
        finish (← get).substituted
  | name :: arguments =>
    if name = "command".toList then
      match PlainCall.read arguments with
      | .call [] => succeed
      | .call (name :: rest) => invoke run assignments redirects true name rest
      | .named names =>
        redirecting run false redirects fun possible => do
          if possible then do
            succeed
            (names.take 1).forM nameCommand
      | .described names =>
        redirecting run false redirects fun possible => do
          if possible then do
            succeed
            describeCommands (names.take 1)
    else invoke run assignments redirects false name arguments

/-! ## All commands -/

/-- Carry out one command, given how to carry out others. -/
def step (run : Runner) : Runner
  | .nothing => return ()
  | .simple line assignments words redirects =>
    checked (simple run line assignments words redirects)
  | .pipe left right => checked (pipe run left right)
  | .sequence .nothing second => run second
  | .sequence first .nothing => run first
  | .sequence first second => do
    surrounded (run first)
    run second
  | .whenOk first second => do
    testing (run first)
    if (← get).status = 0 then run second
  | .whenFailed first second => do
    testing (run first)
    if (← get).status ≠ 0 then run second
  | .negated command => do
    testing (run command)
    finish (if (← get).status = 0 then 1 else 0)
  | .background command => startTask run command
  | .loop condition body untilHolds => repeating run condition body untilHolds patience 0
  | .branch condition consequence alternative => do
    testing (run condition)
    if (← get).status = 0 then run consequence
    else match alternative with
      | .nothing => succeed
      | alternative => run alternative
  | .each line name words body => do
    modify fun s => { s with line }
    let texts ← match words with
      | some words => surrounded (expandAll run words)
      | none => pure (← get).arguments
    if texts.isEmpty then succeed else forEach run name body texts
  | .select line word arms => do
    modify fun s => { s with line }
    let text ← surrounded (expandText run word)
    selectArm run text arms
  | .redirected line body redirects => do
    modify fun s => { s with line }
    redirecting run false redirects fun possible => do
      if possible then surrounded (run body) else checked (return ())
  | .subshell body => checked (inOwnShell run body)
  | .function name body => do
    modify fun s =>
      { s with functions := (name, body) :: s.functions.filter (·.1 != name), status := 0 }

/-- Carry out a command with at most that many nested ones. -/
def runner : Nat → Runner
  | 0 => fun _ => throw .exhausted
  | bound + 1 => step (runner bound)

/-- How deep commands may be nested. -/
def depth : Nat := 6000

/-- What a program does that is started in a directory. -/
def program (called name : List Char) (arguments : List (List Char)) (directory : Place) :
    Program := fun input ended =>
  let path := directory.text
  let given (name value : List Char) : List Char × Binding :=
    (name, { value := some value, exported := true })
  let start : State :=
    { name := called, arguments := []
      bindings := [given "PATH".toList searchPath.toList, given "HOME".toList "/root".toList,
        given "PWD".toList path]
      directory, path
      streams := [(0, .inflow 0), (1, .sink 0), (2, .nothing)]
      inflows := [⟨input, ended⟩]
      final := true }
  let (result, after) := (callProgram (runner depth) called name arguments).run start
  let after := after.settled
  let waits := match result with
    | .error .blocked => true
    | .error .exhausted => true
    | _ => false
  let output := after.writtenTo 0
  if waits then ⟨output, !after.reaches (.sink 0), !after.reaches (.inflow 0)⟩
  else ⟨output, !after.holds (.sink 0), !after.holds (.inflow 0)⟩

end Shell
end Toolbox
end CompilerRelay
