import CompilerRelay.Toolbox.Shell.Expansion

/-!
Reading lines into variables.

A line is cut into as many fields as there are names.  The last name gets what
is left: one field without the mark that ends it, or all of several fields with
the marks between them.  A character behind a backslash parts nothing.
-/

namespace CompilerRelay
namespace Toolbox
namespace Shell

/-- A line of characters, of which some are protected. -/
abbrev ProtectedLine := List (Char × Bool)

/-- A line that was read. -/
structure LineRead where
  line : ProtectedLine
  rest : List Char
  /-- The line has an end. -/
  complete : Bool

/-- Read a line.  Unless it is taken as it is, a backslash protects the character
behind it, and hides a line end. -/
def readProtected (asItIs : Bool) : List Char → LineRead
  | [] => ⟨[], [], false⟩
  | '\n' :: rest => ⟨[], rest, true⟩
  | ['\\'] => ⟨if asItIs then [('\\', false)] else [], [], false⟩
  | '\\' :: c :: rest =>
    if asItIs then
      if c = '\n' then ⟨[('\\', false)], rest, true⟩
      else
        let read := readProtected asItIs rest
        { read with line := ('\\', false) :: (c, false) :: read.line }
    else
      let read := readProtected asItIs rest
      { read with line := if c = '\n' then read.line else (c, true) :: read.line }
  | c :: rest =>
    let read := readProtected asItIs rest
    { read with line := (c, false) :: read.line }

namespace ProtectedLine

def parts (separators : List Char) (c : Char × Bool) : Bool :=
  !c.2 && separators.contains c.1

def isBlank (separators : List Char) (c : Char × Bool) : Bool :=
  parts separators c && Cutting.isBlank c.1

def text (line : ProtectedLine) : List Char :=
  line.map (·.1)

/-- What follows the end of a field: the blanks there and one other mark among
them. -/
def behindField (separators : List Char) (line : ProtectedLine) : ProtectedLine :=
  match line.dropWhile (isBlank separators) with
  | [] => []
  | c :: rest =>
    if parts separators c then rest.dropWhile (isBlank separators) else c :: rest

/-- What the last name gets. -/
def remainder (separators : List Char) (line : ProtectedLine) : List Char :=
  let field := line.takeWhile (!parts separators ·)
  if (behindField separators (line.drop field.length)).isEmpty then text field
  else text (line.reverse.dropWhile (isBlank separators)).reverse

end ProtectedLine

/-- Give names the fields of a line. -/
def assignFields (separators : List Char) : List (List Char) → ProtectedLine → Act Unit
  | [], _ => return ()
  | [name], line => assign name (ProtectedLine.remainder separators line)
  | name :: rest, line => do
    let field := line.takeWhile (!ProtectedLine.parts separators ·)
    assign name (ProtectedLine.text field)
    assignFields separators rest (ProtectedLine.behindField separators (line.drop field.length))

/-- Read a line into variables.  A line cut off by the end of the input is
assigned too, but then the command fails. -/
def readInto (asItIs : Bool) (names : List (List Char)) : Act Unit := do
  let input ← readable 0
  let read := readProtected asItIs input.rest
  if !read.complete && !input.ended then throw .blocked
  leaveRest 0 read.rest
  let marks ← separators
  let line := read.line.filter (·.1.toNat != 0)
  assignFields marks names (line.dropWhile (ProtectedLine.isBlank marks))
  finish (if read.complete then 0 else 1)

end Shell
end Toolbox
end CompilerRelay
