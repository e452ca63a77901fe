import CompilerRelay.Text.Composed
import CompilerRelay.Text.Utf8
import CompilerRelay.Uri.Domain.Direction
import CompilerRelay.Uri.Domain.Joining
import CompilerRelay.Uri.Domain.Mapping
import CompilerRelay.Uri.Percent
import CompilerRelay.Uri.Punycode

/-!
Domains of the network.

A domain is put into lower case and into composed form, and its labels are put
into ASCII.  A label that was in ASCII all along and carries the mark of such a
label has to stand for a name that would be written the same way.
-/

namespace CompilerRelay
namespace Uri

/-- The text of a character list cut at every separator. -/
def splitAt (separator : Char → Bool) : List Char → List (List Char)
  | [] => [[]]
  | c :: rest =>
    if separator c then [] :: splitAt separator rest
    else match splitAt separator rest with
      | [] => [[c]]
      | first :: others => (c :: first) :: others

namespace Domain

/-- Characters a domain may not have. -/
def isForbidden (c : Char) : Bool :=
  c.toNat ≤ 0x20 || c.toNat == 0x7F || "%#/:<>?@[\\]^|".toList.contains c

def isAscii (text : List Char) : Bool :=
  text.all fun c => c.toNat < 0x80

/-- A label: the name it stands for, and how it is written in ASCII. -/
structure Label where
  name : List Char
  ascii : List Char

namespace Label

/-- The longest name above ASCII, and the longest label that is decoded. -/
def nameLimit : Nat := 1000

def codeLimit : Nat := 2000

/-- The label with the given code behind its mark. -/
def ofCode? (code : List Char) : Option Label := do
  if code.getLast?.getD '-' = '-' ∨ !isAscii code ∨ codeLimit < code.length then none
  else
    let name ← Punycode.decode? code
    if name.all isKept ∧ Text.composed name = name then
      some ⟨name, ['x', 'n', '-', '-'] ++ code⟩
    else none

def ofName? (name : List Char) : Option Label :=
  if isAscii name then some ⟨name, name⟩
  else if nameLimit < name.length then none
  else some ⟨name, ['x', 'n', '-', '-'] ++ Punycode.encode name⟩

/-- The label that a part of a domain is. -/
def ofText? (text : List Char) : Option Label :=
  match text with
  | 'x' :: 'n' :: '-' :: '-' :: code => ofCode? code
  | name => ofName? name

/-- Whether the marks of a label are where they may be. -/
def isWellMarked (label : Label) : Bool :=
  isAscii label.name || (!beginsWithMark label.name && joinersAllowed [] label.name)

end Label

/-- Whether the labels of a domain show in the order they have. -/
def keepsOrder (labels : List Label) : Bool :=
  let turns := labels.any fun label =>
    !isAscii label.name && label.name.any fun c => (Direction.ofChar c).turns
  !turns || labels.all fun label => keepsDirection label.name

/-- The ASCII form of a domain whose characters are given. -/
def ofChars? (text : List Char) : Option (List Char) := do
  let mapped ← text.mapM mapped?
  let composed := Text.composed mapped.flatten
  let labels ← (splitAt (· == '.') composed).mapM Label.ofText?
  if composed.any isForbidden ∨ !labels.all Label.isWellMarked ∨ !keepsOrder labels then none
  else some (['.'].intercalate (labels.map (·.ascii)))

/-- The ASCII form of a domain, which may have escapes. -/
def ascii? (text : List Char) : Option (List Char) :=
  (Text.Utf8.decode? (Percent.decode (Text.Utf8.encode text))).bind ofChars?

end Domain
end Uri
end CompilerRelay
