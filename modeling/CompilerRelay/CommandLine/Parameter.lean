import CompilerRelay.About

/-!
What can be given on the command line.
-/

namespace CompilerRelay
namespace CommandLine

/-- Something that can be given on the command line. -/
inductive Parameter where
  | compiler
  | compilerArgument
  | diagnosticsSource
  | stdio
  | port
  | pipe
  | help
  | version
  deriving DecidableEq, Repr

namespace Parameter

/-- All parameters, in the order of the help text. -/
def all : List Parameter :=
  [compiler, compilerArgument, diagnosticsSource, stdio, port, pipe, help, version]

def name : Parameter → String
  | compiler => "compiler"
  | compilerArgument => "compiler-arg"
  | diagnosticsSource => "diagnostics-source"
  | stdio => "stdio"
  | port => "port"
  | pipe => "pipe"
  | help => "help"
  | version => "version"

def letter? : Parameter → Option Char
  | help => some 'h'
  | version => some 'V'
  | _ => none

/-- What stands for the value of a parameter that has one. -/
def placeholder? : Parameter → Option String
  | compiler => some "COMPILER"
  | compilerArgument => some "COMPILER_ARGS"
  | diagnosticsSource => some "DIAGNOSTICS_SOURCE"
  | port => some "PORT"
  | pipe => some "PIPE"
  | _ => none

/-- The line that explains a parameter. -/
def summary : Parameter → String
  | compiler => "Compiler executable. If not provided, expects 'compiler' in PATH"
  | compilerArgument => "Argument passed to the compiler (repeatable)"
  | diagnosticsSource => "Source label attached to published diagnostics"
  | stdio => "Communicate over stdin/stdout (default)"
  | port => "Connect to the editor on this local TCP port"
  | pipe => "Connect to the editor over this Unix domain socket"
  | help => "Print help"
  | version => "Print version"

/-- Whether a parameter may be given several times. -/
def repeats (parameter : Parameter) : Bool :=
  parameter == compilerArgument

/-- Whether the value may be any text, even one that looks like a parameter. -/
def takesAnyText (parameter : Parameter) : Bool :=
  parameter == compilerArgument

/-- Whether a parameter says where the editor is met. -/
def choosesEndpoint : Parameter → Bool
  | stdio => true
  | port => true
  | pipe => true
  | _ => false

/-- Whether a parameter settles how the program runs, and does not ask it to
show something. -/
def settles (parameter : Parameter) : Bool :=
  parameter != help && parameter != version

/-- Whether two parameters cannot be given together. -/
def excludes (a b : Parameter) : Bool :=
  a != b && a.choosesEndpoint && b.choosesEndpoint

/-- A parameter as it is written, with what stands for its value. -/
def shown (parameter : Parameter) : String :=
  "--" ++ parameter.name ++ (parameter.placeholder?.elim "" fun text => " <" ++ text ++ ">")

def ofName? (name : List Char) : Option Parameter :=
  all.find? fun parameter => parameter.name.toList == name

def ofLetter? (letter : Char) : Option Parameter :=
  all.find? fun parameter => parameter.letter? == some letter

/-- The lines of the help text about a parameter. -/
def entry (parameter : Parameter) : String :=
  let short := parameter.letter?.elim "      " fun letter => "  -" ++ letter.toString ++ ", "
  short ++ parameter.shown ++ "\n          " ++ parameter.summary ++ "\n"

end Parameter

/-- A line that shows how the program is used. -/
inductive Usage where
  /-- With certain parameters, or with any if there are none. -/
  | parameters (shown : List Parameter)
  /-- With a parameter and a choice of those that settle something. -/
  | choice (parameter : Parameter)
  deriving DecidableEq, Repr

namespace Usage

/-- All parameters that settle something, as a choice. -/
def choices : String :=
  "<" ++ "|".intercalate ((Parameter.all.filter Parameter.settles).map Parameter.shown) ++ ">"

/-- What the line shows behind the name of the program. -/
def parts : Usage → List String
  | parameters [] => ["[OPTIONS]"]
  | parameters shown => shown.map Parameter.shown
  | choice parameter => if parameter.settles then [choices] else [parameter.shown, choices]

def line (usage : Usage) : String :=
  "Usage: " ++ About.name ++ " " ++ " ".intercalate usage.parts

end Usage

def helpText : String :=
  About.summary ++ "\n\n" ++ (Usage.parameters []).line ++ "\n\nOptions:\n"
    ++ String.join (Parameter.all.map Parameter.entry)

def versionText : String :=
  About.name ++ " " ++ About.version ++ "\n"

end CommandLine
end CompilerRelay
