import CompilerRelay.Settings
import CompilerRelay.Supervisor.Event
import CompilerRelay.Toolbox.Shell.Run

/-!
The programs that can be started as a compiler.

A command is looked up by its name, in the directory it is started in.  A
launch fails when there is no such program or directory, or when a text holds
the null character, which no program can be given.
-/

namespace CompilerRelay
namespace Toolbox

/-- The reason why a text with the null character cannot be given to a program. -/
def nullInText : String :=
  "nul byte found in provided data"

def holdsNull (text : String) : Bool :=
  text.toList.any fun c => c.toNat == 0

/-- The directory that settings ask for, as bytes of a path. -/
def directoryPath : Path → List Char
  | .text path => ofText path
  | .bytes bytes => ofBytes bytes

/-- Find the program that settings ask for.  The directory is entered first. -/
def find (settings : LaunchSettings) : Except String Program := do
  let path := (settings.workingDirectory.map directoryPath).getD ['/']
  let null := Char.ofNat 0
  if holdsNull settings.command || settings.args.any holdsNull || path.contains null then
    throw nullInText
  let directory ← (Site.root.directory path).mapError PathFault.account
  let command := ofText settings.command
  let name ← (Site.find { place := directory } searchPath.toList command).mapError PathFault.account
  return Shell.program command name (settings.args.map ofText) directory

/-- Start the program that settings ask for. -/
def launch (settings : LaunchSettings) : Except Failure Program :=
  (find settings).mapError fun reason =>
    ⟨["spawning compiler `" ++ settings.command ++ "`", reason]⟩

end Toolbox
end CompilerRelay
