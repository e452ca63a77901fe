import CompilerRelay.Toolbox.CharSet

/-!
Patterns of the shell.

A star stands for any text, a question mark for any character, and brackets
for one of several; quoted characters stand for themselves, and so does a
character behind a backslash.
-/

namespace CompilerRelay
namespace Toolbox

/-- One part of a pattern. -/
inductive GlobPart where
  | literal (c : Char)
  | anyText
  | oneOf (set : CharSet)

def globMatches : List GlobPart → List Char → Bool
  | [], text => text.isEmpty
  | .anyText :: rest, text =>
    (List.range (text.length + 1)).any fun count => globMatches rest (text.drop count)
  | .literal c :: rest, d :: text => c == d && globMatches rest text
  | .oneOf set :: rest, c :: text => set.holds c && globMatches rest text
  | _ :: _, [] => false

/-- The parts of a pattern given by characters and whether each is quoted. -/
def globParts (pattern : CharSet.Marked) : List GlobPart :=
  go (pattern.length + 1) pattern
where
  go : Nat → CharSet.Marked → List GlobPart
    | _, [] => []
    | 0, _ => []
    | bound + 1, (c, true) :: rest => .literal c :: go bound rest
    | bound + 1, ('*', false) :: rest => .anyText :: go bound rest
    | bound + 1, ('?', false) :: rest => .oneOf .all :: go bound rest
    | bound + 1, ('\\', false) :: (c, _) :: rest => .literal c :: go bound rest
    | bound + 1, ('[', false) :: rest =>
      match CharSet.read? '!' rest with
      | some (set, after) => .oneOf set :: go bound after
      | none => .literal '[' :: go bound rest
    | bound + 1, (c, false) :: rest => .literal c :: go bound rest

/-- Take away the shortest or longest part at one end of a text that matches. -/
def globStrip (fromStart longest : Bool) (parts : List GlobPart) (text : List Char) :
    List Char :=
  let counts := List.range (text.length + 1)
  let size := text.length
  match (if longest then counts.reverse else counts).find? fun count =>
      globMatches parts (if fromStart then text.take count else text.drop (size - count)) with
  | some count => if fromStart then text.drop count else text.take (size - count)
  | none => text

end Toolbox
end CompilerRelay
