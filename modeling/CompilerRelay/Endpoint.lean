import CompilerRelay.Failure
import CompilerRelay.Toolbox.Catalog

/-!
Where the editor is met.

The program runs without a network, and no socket is open in the directories
it knows.  So the streams it was started with are the only way to an editor,
and an attempt to connect elsewhere fails for one of the reasons below.
-/

namespace CompilerRelay

/-- Where the editor is met.  Only the streams are served here: what comes of
the other two is that the program ends before it begins (`trouble?`). -/
inductive Endpoint where
  /-- At the streams that the program was started with. -/
  | stdio
  /-- At a port of this machine. -/
  | port (number : Nat)
  /-- At a socket with a path. -/
  | pipe (path : String)
  deriving DecidableEq, Repr, Inhabited

namespace Endpoint

/-- How many bytes the path of a socket may have. -/
def pathLimit : Nat := 107

/-- Why a socket cannot be used: no known file is one. -/
def socketTrouble (path : String) : String :=
  if pathLimit < path.utf8ByteSize then "path must be shorter than SUN_LEN"
  else match Toolbox.Site.root.resolve (Toolbox.ofText path) with
    | .ok _ => "Connection refused (os error 111)"
    | .error fault => fault.account

/-- Why the editor is not met at an endpoint, if it is not. -/
def trouble? : Endpoint → Option Failure
  | stdio => none
  | port number =>
    some ⟨["connecting to editor on port " ++ toString number,
      "Network is unreachable (os error 101)"]⟩
  | pipe path => some ⟨["connecting to editor pipe " ++ path, socketTrouble path]⟩

end Endpoint
end CompilerRelay
