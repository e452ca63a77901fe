/-!
What the program says about itself.
-/

namespace CompilerRelay
namespace About

def name : String :=
  "compiler-bridge-lsp"

def version : String :=
  "0.1.0"

def summary : String :=
  "Language Server Protocol bridge that sequences editor events into jobs for an external "
    ++ "compiler process"

end About
end CompilerRelay
