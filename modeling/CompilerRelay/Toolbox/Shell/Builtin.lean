import CompilerRelay.Toolbox.Shell.Control
import CompilerRelay.Toolbox.Shell.Input
import CompilerRelay.Toolbox.Shell.Option

/-!
The shell's own commands.

Some are special: what is assigned before them stays assigned, a mistake in
them ends the script, and no function can take their names.
-/

namespace CompilerRelay
namespace Toolbox
namespace Shell

/-- The special commands of the shell. -/
def specialNames : List String :=
  [".", ":", "break", "continue", "eval", "exec", "exit", "export", "local", "readonly", "return",
    "set", "shift", "times", "trap", "unset"]

/-- The other commands of the shell. -/
def ordinaryNames : List String :=
  ["[", "alias", "bg", "cd", "chdir", "command", "echo", "false", "fg", "getopts", "hash", "jobs",
    "kill", "printf", "pwd", "read", "test", "true", "type", "ulimit", "umask", "unalias", "wait"]

/-- What a command's name stands for. -/
inductive Target where
  | special
  | function (body : Command)
  | ordinary
  | program (name : List Char)
  | unusable (fault : PathFault)

namespace State

/-- The program that a name stands for. -/
def program (s : State) (name : List Char) : Target :=
  match s.site.find (s.value "PATH".toList) name with
  | .ok program => .program program
  | .error fault => .unusable fault

/-- What a name stands for, perhaps apart from functions. -/
def target (s : State) (functions : Bool) (name : List Char) : Target :=
  if specialNames.contains (String.ofList name) then .special
  else match functions, s.functions.lookup name with
    | true, some body => .function body
    | _, _ => if ordinaryNames.contains (String.ofList name) then .ordinary else s.program name

end State

/-- The file that a name stands for, as it is found. -/
def foundPath (s : State) (name : List Char) : List Char :=
  if name.contains '/' then name
  else
    let directories := Site.find.cutPath (s.value "PATH".toList)
    let path (directory : List Char) : List Char := directory ++ '/' :: name
    match directories.find? fun directory => (s.site.program (path directory)).isOk with
    | some directory => path directory
    | none => name

/-- A text between quotes. -/
def singleQuoted (text : List Char) : List Char :=
  go (text.length + 1) text
where
  go : Nat → List Char → List Char
    | 0, _ => []
    | bound + 1, text =>
      let plain := text.takeWhile (· != '\'')
      let rest := text.drop plain.length
      let quotes := rest.takeWhile (· == '\'')
      let behind := rest.drop quotes.length
      let first := '\'' :: plain ++ ['\'']
      if quotes.isEmpty then first
      else first ++ '"' :: quotes ++ ['"'] ++ if behind.isEmpty then [] else go bound behind

/-! ## Output -/

def speak (name text : List Char) : Act Unit := do
  if ← writeTo 1 text then succeed
  else do
    complain (name ++ ": I/O error".toList)
    finish 1

/-- Format arguments. -/
def printFormatted (arguments : List (List Char)) : Act Unit :=
  match arguments with
  | ['-', '-'] :: format :: rest => print format rest
  | ['-'] :: rest => print ['-'] rest
  | ('-' :: letter :: _) :: _ => fail ("Illegal option -".toList ++ [letter])
  | format :: rest => print format rest
  | [] => fail "usage: printf format [arg ...]".toList
where
  print (format : List Char) (arguments : List (List Char)) : Act Unit := do
    let printing := formatted false format arguments
    for complaint in printing.complaints do complain complaint
    speak "printf".toList printing.text
    if (← get).status = 0 then finish (printing.status false)

/-! ## Directories -/

/-- The names of a path as it is walked in words: a point stays, two points go
back. -/
def walked : List (List Char) → List (List Char) → List (List Char)
  | back, [] => back
  | back, name :: rest =>
    if name = ['.'] then walked back rest
    else if name = ['.', '.'] then walked (back.drop 1) rest
    else walked (name :: back) rest

/-- The path that a path from a directory comes to. -/
def pathFrom (current target : List Char) : List Char :=
  let whole := if target.head? = some '/' then target else current ++ '/' :: target
  let slashes := (whole.takeWhile (· == '/')).length
  let text := Place.text (walked [] (Place.names whole))
  if slashes = 2 then '/' :: text else text

def changeDirectory (physical : Bool) : List (List Char) → Act Unit
  | ['-', '-'] :: rest => go physical rest
  | ['-', 'P'] :: rest => changeDirectory true rest
  | ['-', 'L'] :: rest => changeDirectory false rest
  | ('-' :: letter :: _) :: _ => fail ("Illegal option -".toList ++ [letter])
  | arguments => go physical arguments
where
  go (physical : Bool) (arguments : List (List Char)) : Act Unit := do
    let s ← get
    let back := arguments.head? = some ['-']
    let asked := match arguments with
      | [] => s.value "HOME".toList
      | target :: _ => if back then s.value "OLDPWD".toList else target
    let path := if asked.isEmpty then s.path else pathFrom s.path asked
    let found := if physical && !asked.isEmpty then s.site.directory asked
      else Site.root.directory path
    match found with
    | .error _ => fail ("can't cd to ".toList ++ asked)
    | .ok place => do
      let path := if physical then place.text else path
      set { s with directory := place, path }
      assign "OLDPWD".toList s.path
      assign "PWD".toList path
      if back then speak "cd".toList (path ++ ['\n']) else succeed

def sayDirectory (arguments : List (List Char)) : Act Unit := do
  let s ← get
  match arguments.head? with
  | some ['-', 'P'] => speak "pwd".toList (s.directory.text ++ ['\n'])
  | some ['-', 'L'] => speak "pwd".toList (s.path ++ ['\n'])
  | some ('-' :: letter :: _) => fail ("Illegal option -".toList ++ [letter])
  | _ => speak "pwd".toList (s.path ++ ['\n'])

/-! ## Variables and functions -/

/-- Split an assignment at its first equals sign. -/
def cutAssignment (argument : List Char) : List Char × Option (List Char) :=
  let name := argument.takeWhile (· != '=')
  (name, if name.length < argument.length then some (argument.drop (name.length + 1)) else none)

/-- Mark variables, and assign to those that come with a text. -/
def markVariables (mark : Binding → Binding) : List (List Char) → Act Unit
  | [] => succeed
  | argument :: rest => do
    let (name, value) := cutAssignment argument
    demandName name
    match value with
    | some value => assign name value
    | none => pure ()
    changeBinding name mark
    markVariables mark rest

/-- Show the variables that are marked. -/
def showMarked (word : String) (marked : Binding → Bool) : Act Unit := do
  let s ← get
  let chosen := s.bindings.filter fun entry => marked entry.2
  let sorted := chosen.mergeSort fun a b => decide (String.ofList a.1 ≤ String.ofList b.1)
  speak word.toList <| sorted.flatMap fun (name, binding) =>
    word.toList ++ ' ' :: name ++ (binding.value.elim [] fun value => '=' :: singleQuoted value) ++ ['\n']

/-- Mark variables or show those that are marked. -/
def markOrShow (word : String) (marked : Binding → Bool) (mark : Binding → Binding)
    (arguments : List (List Char)) : Act Unit :=
  match arguments with
  | [] => showMarked word marked
  | [['-', 'p']] => showMarked word marked
  | ['-', '-'] :: rest => markVariables mark rest
  | ('-' :: letter :: _) :: _ => fail ("Illegal option -".toList ++ [letter])
  | arguments => markVariables mark arguments

/-- Make variables a function's own. -/
def makeLocal : List (List Char) → Act Unit
  | [] => succeed
  | argument :: rest => do
    let s ← get
    match s.locals with
    | none => fail "not in a function".toList
    | some locals => do
      let (name, value) := cutAssignment argument
      unless name = ['-'] do
        demandName name
        if !locals.any (·.1 == name) then
          set { s with locals := some ((name, s.binding? name) :: locals) }
        match value with
        | some value => assign name value
        | none => pure ()
      makeLocal rest

/-- Forget variables or functions. -/
def forget (functions : Bool) : List (List Char) → Act Unit
  | [] => succeed
  | ['-', '-'] :: rest => forget functions rest
  | ['-', 'f'] :: rest => forget true rest
  | ['-', 'v'] :: rest => forget false rest
  | name :: rest => do
    if functions then
      modify fun s => { s with functions := s.functions.filter (·.1 != name) }
    else do
      demandName name
      if ((← get).binding? name).any (·.fixed) then fail (name ++ ": is read only".toList)
      modify fun s => s.withBinding name none
    forget functions rest

/-! ## Signals -/

/-- The signals with their numbers. -/
def signals : List (Nat × String) :=
  [(0, lastWords), (1, "HUP"), (2, "INT"), (3, "QUIT"), (4, "ILL"), (5, "TRAP"), (6, "ABRT"),
    (7, "BUS"), (8, "FPE"), (9, "KILL"), (10, "USR1"), (11, "SEGV"), (12, "USR2"), (13, "PIPE"),
    (14, "ALRM"), (15, "TERM"), (16, "STKFLT"), (17, "CHLD"), (18, "CONT"), (19, "STOP"),
    (20, "TSTP"), (21, "TTIN"), (22, "TTOU"), (23, "URG"), (24, "XCPU"), (25, "XFSZ"),
    (26, "VTALRM"), (27, "PROF"), (28, "WINCH"), (29, "POLL"), (30, "PWR"), (31, "SYS")]

/-- The signal that a text names. -/
def signal? (text : List Char) : Option (Nat × String) :=
  signals.find? fun entry =>
    number? text == some entry.1 || text.map Char.toUpper == entry.2.toList

/-- Set what is to be done on signals; nothing if they are to do what they do
otherwise. -/
def setTraps (action : Option (List Char)) : List (List Char) → Act Unit
  | [] => succeed
  | text :: rest =>
    match signal? text with
    | none => do
      say ("trap: ".toList ++ text ++ ": bad trap".toList)
      finish 1
    | some (_, name) => do
      modify fun s =>
        let others := s.traps.filter (·.1 != name)
        { s with traps := action.elim others fun action => (name, action) :: others }
      setTraps action rest

/-- Set or show what is to be done on signals. -/
def trap (arguments : List (List Char)) : Act Unit :=
  match arguments with
  | ['-', '-'] :: rest => go rest
  | arguments => go arguments
where
  go : List (List Char) → Act Unit
    | [] => do
      let traps := (← get).traps
      speak "trap".toList <| signals.flatMap fun (_, name) =>
        (traps.lookup name).elim [] fun action =>
          "trap -- ".toList ++ singleQuoted action ++ ' ' :: name.toList ++ ['\n']
    | [text] => setTraps none [text]
    | action :: rest =>
      if (number? action).isSome then setTraps none (action :: rest)
      else setTraps (if action = ['-'] then none else some action) rest

/-- Send a signal to the shell itself. -/
def signalSelf (run : Runner) (number : Nat) (name : String) : Act Unit := do
  let s ← get
  match s.traps.lookup name with
  | some action =>
    if name = "KILL" then die
    else do
      succeed
      unless action.isEmpty do
        runText run false action
        succeed
  | none => if [0, 17, 18, 23, 28].contains number then succeed else die
where
  die : Act Unit := do
    finish (128 + number)
    throw .killed

/-- Send a signal to what has a number. -/
def sendSignal (run : Runner) (number : Nat) (name : String) : List (List Char) → Act Unit
  | [] => return ()
  | target :: rest => do
    let s ← get
    match number? target with
    | none => fail ("Illegal number: ".toList ++ target)
    | some id =>
      if id = ownNumber then signalSelf run number name
      else match s.tasks.find? fun task => task.number == id && task.status.isNone with
        | some _ => do
          let ends := !([0, 17, 18, 23, 28].contains number)
          set { s with
            status := 0
            tasks := s.tasks.map fun (task : Task) =>
              if task.number = id ∧ ends then { task with status := some (128 + number) } else task }
        | none => do
          complain "No such process\n".toList
          finish 1
    sendSignal run number name rest

def kill (run : Runner) (arguments : List (List Char)) : Act Unit :=
  let usage : Act Unit :=
    fail ("Usage: kill [-s sigspec | -signum | -sigspec] [pid | job]... or\n".toList
      ++ "kill -l [exitstatus]".toList)
  match arguments with
  | [] => usage
  | [['-', 'l'], text] =>
    match (number? text).bind fun number => signals.lookup (number % 128) with
    | some name => speak "kill".toList (name.toList ++ ['\n'])
    | none => fail ("invalid signal number or exit status: ".toList ++ text)
  | ['-', 's'] :: text :: targets => named text targets
  | ['-', '-'] :: targets => sendSignal run 15 "TERM" targets
  | ('-' :: text) :: targets =>
    match signal? text with
    | some (number, name) => if targets.isEmpty then usage else sendSignal run number name targets
    | none => fail ("Illegal option -".toList ++ text.take 1)
  | targets => sendSignal run 15 "TERM" targets
where
  named (text : List Char) (targets : List (List Char)) : Act Unit :=
    match signal? text with
    | some (number, name) => sendSignal run number name targets
    | none => fail ("invalid signal number or name: ".toList ++ text)

/-- Wait for what goes on in the background. -/
def wait (arguments : List (List Char)) : Act Unit := do
  modify State.settled
  let tasks := (← get).tasks
  match arguments with
  | [] => if tasks.any (·.status.isNone) then throw .blocked else succeed
  | target :: _ =>
    match tasks.find? fun task => number? target == some task.number with
    | none => finish 127
    | some task =>
      match task.status with
      | some status => finish status
      | none => throw .blocked

/-! ## Other commands -/

/-- A number given to a command. -/
def numberArgument (text : List Char) : Act Nat :=
  match decimal? text with
  | some (.ofNat value) =>
    if value < Word.size 31 then return value else fail (illegalNumber text)
  | _ => fail (illegalNumber text)

/-- Leave loops or begin their next round. -/
def leaveLoops (stop : Nat → Stop) (arguments : List (List Char)) : Act Unit := do
  let count ← match arguments with
    | [] => pure 1
    | text :: _ => do
      let count ← numberArgument text
      if count = 0 then fail (illegalNumber text)
      pure count
  succeed
  let loops := (← get).loops
  if 0 < loops then throw (stop (min count loops))

/-- Drop arguments. -/
def shift (arguments : List (List Char)) : Act Unit := do
  let count ← match arguments with
    | [] => pure 1
    | text :: _ => numberArgument text
  let s ← get
  if s.arguments.length < count then fail "can't shift that many".toList
  set { s with
    arguments := s.arguments.drop count, optionIndex := 1, optionOffset := none, status := 0 }

def test (words : List (List Char)) : Act Unit := do
  match Condition.holds (← facts) words with
  | .ok holds => finish (if holds then 0 else 1)
  | .error complaint => fail complaint

/-- Carry out the commands in a file. -/
def carryOutFile (run : Runner) (name : List Char) : Act Unit := do
  let s ← get
  let path := if name.contains '/' then name else foundPath s name
  match s.site.resolve path with
  | .error _ =>
    if name.contains '/' then fail ("cannot open ".toList ++ name ++ ": No such file".toList)
    else fail (name ++ ": not found".toList)
  | .ok (_, file) =>
    if !name.contains '/' && !(file matches .program _) then fail (name ++ ": not found".toList)
    else match file with
      | .made contents => returning (runText run false contents)
      | .stream number => do
        let input ← readable number
        if !input.ended then throw .blocked
        leaveRest number []
        returning (runText run false input.rest)
      | _ => succeed
where
  returning (act : Act Unit) : Act Unit := do
    let (result, after) := act.run (← get)
    set after
    match result with
    | .error .returned => return ()
    | .error stop => throw stop
    | .ok () => return ()

/-- Say in a word what a name stands for. -/
def nameCommand (name : List Char) : Act Unit := do
  let s ← get
  if reservedWords.contains (String.ofList name) then speak name (name ++ ['\n'])
  else match s.target true name with
    | .unusable _ => finish 127
    | .program _ => speak name (foundPath s name ++ ['\n'])
    | _ => speak name (name ++ ['\n'])

/-- Say what names stand for. -/
def describeCommands : List (List Char) → Act Unit
  | [] => return ()
  | name :: rest => do
    let s ← get
    let about (text : List Char) : Act Unit := speak "type".toList (name ++ text ++ ['\n'])
    if reservedWords.contains (String.ofList name) then about " is a shell keyword".toList
    else match s.target true name with
      | .special => about " is a special shell builtin".toList
      | .ordinary => about " is a shell builtin".toList
      | .function _ => about " is a shell function".toList
      | .program _ => about (" is ".toList ++ foundPath s name)
      | .unusable _ => do
        about ": not found".toList
        finish 127
    let status := (← get).status
    describeCommands rest
    unless status = 0 do finish status

/-- Show or set what is taken from the rights on files. -/
def mask (arguments : List (List Char)) : Act Unit := do
  match arguments with
  | [] => do
    let digits := Nat.toDigits 8 (← get).mask
    speak "umask".toList (List.replicate (4 - digits.length) '0' ++ digits ++ ['\n'])
  | text :: _ => do
    let (mask, rest) := readDigits 8 text.length 0 text
    if rest.isEmpty then modify fun s => { s with mask := mask % 512 }
    succeed

def builtin (run : Runner) (name : String) (arguments : List (List Char)) : Act Unit := do
  let s ← get
  match name with
  | ":" => succeed
  | "true" => succeed
  | "false" => finish 1
  | "." =>
    match arguments with
    | [] => fail "filename argument required".toList
    | file :: _ => carryOutFile run file
  | "[" =>
    if arguments.getLast? = some [']'] then test arguments.dropLast
    else fail "missing ]".toList
  | "test" => test arguments
  | "break" => leaveLoops .broke arguments
  | "continue" => leaveLoops .continued arguments
  | "cd" => changeDirectory false arguments
  | "chdir" => changeDirectory false arguments
  | "echo" => speak "echo".toList (shellSpoken arguments)
  | "eval" => runText run false ([' '].intercalate arguments)
  | "exit" => do
    match arguments with
    | [] => finish (s.leaving.getD s.status)
    | text :: _ => finish (← numberArgument text)
    throw .exited
  | "export" => markOrShow "export" (·.exported) (fun b => { b with exported := true }) arguments
  | "getopts" =>
    match arguments with
    | [description, name] => readOption description name s.arguments
    | description :: name :: rest => readOption description name rest
    | _ => fail "Usage: getopts optstring var [arg...]".toList
  | "kill" => kill run arguments
  | "local" => makeLocal arguments
  | "printf" => printFormatted arguments
  | "pwd" => sayDirectory arguments
  | "read" => readNames false arguments
  | "readonly" => markOrShow "readonly" (·.fixed) (fun b => { b with fixed := true }) arguments
  | "return" => do
    match arguments with
    | [] => pure ()
    | text :: _ => finish (← numberArgument text)
    throw .returned
  | "set" => setOptions arguments
  | "shift" => shift arguments
  | "times" => speak "times".toList "0m0.000000s 0m0.000000s\n0m0.000000s 0m0.000000s\n".toList
  | "trap" => trap arguments
  | "type" => describeCommands arguments
  | "umask" => mask arguments
  | "unset" => forget false arguments
  | "wait" => wait arguments
  | _ => succeed
where
  readNames (asItIs : Bool) : List (List Char) → Act Unit
    | [] => fail "arg count".toList
    | ['-', '-'] :: rest => readInto asItIs rest
    | ['-', 'r'] :: rest => readNames true rest
    | ['-', 'p'] :: _ :: rest => readNames asItIs rest
    | ('-' :: letter :: _) :: _ => fail ("Illegal option -".toList ++ [letter])
    | names => readInto asItIs names

end Shell
end Toolbox
end CompilerRelay
