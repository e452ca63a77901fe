import CompilerRelay.CommandLine.Basic
import CompilerRelay.Wire

/-!
The program.
-/

namespace CompilerRelay

/-- Serve the editor at two streams until it leaves. -/
partial def serve (input output : IO.FS.Stream) (wire : Wire) : IO Unit := do
  let bytes ← input.read 65536
  if bytes.isEmpty then return
  let (wire, text) := wire.feed bytes.toList
  output.putStr text
  output.flush
  unless wire.session.ended do
    serve input output wire

end CompilerRelay

open CompilerRelay in
def main (arguments : List String) : IO UInt32 := do
  let plan := CommandLine.plan arguments
  match plan, plan.ending? with
  | .serve options, none =>
    serve (← IO.getStdin) (← IO.getStdout) { session := .initial options.settings }
    return 0
  | _, ending? =>
    let ending := ending?.getD ⟨0, "", ""⟩
    (← IO.getStdout).putStr ending.output
    (← IO.getStderr).putStr ending.errors
    return ending.code.toUInt32
