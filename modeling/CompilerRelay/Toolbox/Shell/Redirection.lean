import CompilerRelay.Toolbox.Shell.Expansion
import CompilerRelay.Toolbox.Shell.Reader

/-!
Leading streams elsewhere.

Redirections are carried out from left to right, and each sees what those
before it did.  Behind the command the streams lead where they led before.
-/

namespace CompilerRelay
namespace Toolbox
namespace Shell

/-- Why a path cannot be opened, as the shell words it. -/
def openingFault (writes : Bool) (path : List Char) (fault : PathFault) : List Char :=
  let reason := match fault with
    | .missing => if writes then "Directory nonexistent" else "No such file"
    | .noDirectory => if writes then "Directory nonexistent" else "No such file"
    | other => other.message
  (if writes then "cannot create " else "cannot open ").toList ++ path ++ ": ".toList
    ++ reason.toList

/-- Open a path to read. -/
def openToRead (path : List Char) : Act (Except (List Char) Channel) := do
  let s ← get
  match s.site.resolve path with
  | .error fault => return .error (openingFault false path fault)
  | .ok (_, .stream number) => return .ok ((s.channel? number).getD .nothing)
  | .ok (_, .made contents) => return .ok (.inflow (← newInflow contents true))
  | .ok _ => return .ok .nothing

/-- Open a path to write.  A file that is there already loses its contents, unless
they are to be kept. -/
def openToWrite (keeps : Bool) (path : List Char) : Act (Except (List Char) Channel) := do
  let s ← get
  match s.site.placeFor path with
  | .error fault => return .error (openingFault true path fault)
  | .ok place =>
    match s.site.file? place, s.files.lookup place with
    | some (.stream number), _ => return .ok ((s.channel? number).getD .nothing)
    | some .nothing, _ => return .ok .nothing
    | some .device, _ => return .ok .nothing
    | _, some sink => do
      unless keeps do discard (takeWritten sink)
      return .ok (.sink sink)
    | _, none => do
      let sink ← newSink
      modify fun s => { s with files := (place, sink) :: s.files }
      return .ok (.sink sink)

/-- Let a stream lead to what was opened; says whether that was possible. -/
def leadTo (stream : Nat) (opened : Except (List Char) Channel) : Act Bool := do
  match opened with
  | .ok channel => do
    modify fun s => s.withStream stream (some channel)
    return true
  | .error complaint => do
    complain complaint
    finish 2
    return false

/-- Carry out a redirection; says whether that was possible. -/
def redirect (run : Runner) : Redirect → Act Bool
  | .mk stream direction target => do
    let text ← expandText run target
    match direction with
    | .read => leadTo stream (← openToRead text)
    | .readAndWrite => do
      let s ← get
      if (s.site.resolve text) matches .error .missing then
        discard (openToWrite true text)
      leadTo stream (← openToRead text)
    | .write => leadTo stream (← openToWrite false text)
    | .append => leadTo stream (← openToWrite true text)
    | .document => do
      let inflow ← newInflow text true
      leadTo stream (.ok (.inflow inflow))
    | .same =>
      if text = ['-'] then do
        modify fun s => s.withStream stream none
        return true
      else match number? text with
        | none => fail Fault.badStream.message
        | some other => do
          match (← get).channel? other with
          | some channel => leadTo stream (.ok channel)
          | none => leadTo stream (.error (text ++ ": Bad file descriptor".toList))

/-- Carry out redirections up to the first that is not possible; says whether all
were. -/
def redirectAll (run : Runner) : List Redirect → Act Bool
  | [] => return true
  | first :: rest => do
    if ← redirect run first then redirectAll run rest else return false

/-- Redirect streams while something is carried out, which is told whether that
was possible.  What takes the place of the shell keeps its streams. -/
def redirecting (run : Runner) (inPlace : Bool) (redirects : List Redirect)
    (act : Bool → Act Unit) : Act Unit := do
  let s ← get
  let (result, after) := (do act (← redirectAll run redirects) : Act Unit).run s
  let stays := inPlace && (result matches .error .blocked)
  set { after with streams := if stays then after.streams else s.streams }
  match result with
  | .error stop => throw stop
  | .ok () => return ()

end Shell
end Toolbox
end CompilerRelay
