import CompilerRelay.Json.Form
import CompilerRelay.Uri.FilePath

/-!
Settings.

The command line gives the first settings and the editor refines them.  A
refinement is any JSON value: the settings are written as JSON, the value is
laid over them member by member, and the outcome is read back, so whatever is
not mentioned stays as it is.
-/

namespace CompilerRelay

namespace Path

def decode : Decoder Path
  | .str value => .ok (text value)
  | other => Decoder.wrongType "path string" other

def toJson? : Path → Except DecodeError Json
  | text value => .ok (.str value)
  | bytes _ => .error (.other "path contains invalid UTF-8 characters")

end Path

/-- How the compiler is started.  Changes take effect with the next launch, and
a compiler that runs keeps what it was started with. -/
structure LaunchSettings where
  command : String := "compiler"
  args : List String := []
  /-- The directory it is started in; the project's root when there is none. -/
  workingDirectory : Option Path := none
  deriving DecidableEq, Repr, Inhabited

namespace LaunchSettings

def form : Form LaunchSettings :=
  (Form.pure mk).and (Form.trailing "command" Decoder.string "compiler")
    |>.and (Form.trailing "args" (Decoder.list Decoder.string) [])
    |>.and (Form.trailing "workingDirectory" (Decoder.option Path.decode) none)

def decode : Decoder LaunchSettings :=
  form.decode "struct CompilerSettings"

def toJson? (settings : LaunchSettings) : Except DecodeError Json := do
  let directory ← match settings.workingDirectory with
    | none => pure Json.null
    | some path => path.toJson?
  return .obj [("args", .arr (settings.args.map .str)), ("command", .str settings.command),
    ("workingDirectory", directory)]

end LaunchSettings

/-- All settings. -/
structure Settings where
  compiler : LaunchSettings := {}
  /-- The label of every diagnostic. -/
  diagnosticsSource : String := "compiler"
  deriving DecidableEq, Repr, Inhabited

namespace Settings

/-- The member of an editor's settings that is meant for this program. -/
def sectionName : String :=
  "compilerBridge"

def form : Form Settings :=
  (Form.pure mk).and (Form.trailing "compiler" LaunchSettings.decode {})
    |>.and (Form.trailing "diagnosticsSource" Decoder.string "compiler")

def decode : Decoder Settings :=
  form.decode "struct BridgeConfig"

def toJson? (settings : Settings) : Except DecodeError Json := do
  let compiler ← settings.compiler.toJson?
  return .obj [("compiler", compiler), ("diagnosticsSource", .str settings.diagnosticsSource)]

end Settings

namespace Json

mutual

/-- Lay a value over another: objects member by member, and anything else in
place of what was there, except that null leaves it. -/
def overlay (base : Json) : Json → Json
  | .obj members =>
    match base with
    | .obj old => .obj (overlayMembers old members)
    | _ => .obj members
  | .null => base
  | value => value

/-- Lay members over others.  Objects are laid over objects member by member,
null changes nothing, and any other value takes the place of what was there; a
name that is new brings its value as it is. -/
def overlayMembers (old : List (String × Json)) : List (String × Json) → List (String × Json)
  | [] => old
  | (name, value) :: rest =>
    match find? name old with
    | some existing => overlayMembers (insertMember name (overlay existing value) old) rest
    | none => overlayMembers (insertMember name value old) rest

end

end Json

namespace Settings

/-- The part of a refinement that is meant for this program: its own member,
or all of it where there is no such member. -/
def ownPart (refinement : Json) : Json :=
  (refinement.member? sectionName).getD refinement

/-- Refine the settings. -/
def refine (settings : Settings) (refinement : Json) : Except DecodeError Settings := do
  let base ← settings.toJson?
  decode (base.overlay (ownPart refinement))

/-- Take a directory to start the compiler in where none is set. -/
def withRoot (settings : Settings) (root : Option Path) : Settings :=
  match settings.compiler.workingDirectory with
  | some _ => settings
  | none => { settings with compiler := { settings.compiler with workingDirectory := root } }

end Settings
end CompilerRelay
