/-!
Sets of characters, and their form between brackets.

Between brackets stand characters, ranges of them and named classes.  A closing
bracket that comes first is one of the characters, and so is a hyphen that
comes first or last.  A character may be given as quoted; then it means nothing
but itself.
-/

namespace CompilerRelay
namespace Toolbox

/-- A set of characters: some ranges, or all characters outside of them. -/
structure CharSet where
  negated : Bool
  ranges : List (Char × Char)
  deriving Repr

namespace CharSet

def all : CharSet :=
  ⟨true, []⟩

def single (c : Char) : CharSet :=
  ⟨false, [(c, c)]⟩

def holds (set : CharSet) (c : Char) : Bool :=
  (set.ranges.any fun range => range.1 ≤ c && c ≤ range.2) != set.negated

def otherCase (c : Char) : Char :=
  if c.isUpper then c.toLower else c.toUpper

/-- Whether a set holds a character in one case or the other. -/
def holdsEitherCase (set : CharSet) (c : Char) : Bool :=
  let plain : CharSet := { set with negated := false }
  (plain.holds c || plain.holds (otherCase c)) != set.negated

/-- The ranges of a named class. -/
def classRanges? (name : String) : Option (List (Char × Char)) :=
  let upper := ('A', 'Z')
  let lower := ('a', 'z')
  let digit := ('0', '9')
  match name with
  | "alpha" => some [upper, lower]
  | "digit" => some [digit]
  | "alnum" => some [upper, lower, digit]
  | "upper" => some [upper]
  | "lower" => some [lower]
  | "space" => some [(' ', ' '), ('\t', '\r')]
  | "blank" => some [(' ', ' '), ('\t', '\t')]
  | "punct" => some [('!', '/'), (':', '@'), ('[', Char.ofNat 0x60), ('\x7b', '~')]
  | "cntrl" => some [(Char.ofNat 0, Char.ofNat 31), (Char.ofNat 127, Char.ofNat 127)]
  | "graph" => some [('!', '~')]
  | "print" => some [(' ', '~')]
  | "xdigit" => some [digit, ('A', 'F'), ('a', 'f')]
  | _ => none

/-- Characters of a pattern, each with whether it is quoted. -/
abbrev Marked := List (Char × Bool)

/-- The name of a class up to its end, and what follows. -/
def cutClass : Marked → Option (List Char × Marked)
  | (':', false) :: (']', false) :: rest => some ([], rest)
  | (c, _) :: rest => (cutClass rest).map fun cut => (c :: cut.1, cut.2)
  | [] => none

/-- The ranges up to the closing bracket.  `none` where there is no such bracket
or a class is not known; the bound is on how many parts are read. -/
def readItems : Nat → Bool → Marked → Option (List (Char × Char) × Marked)
  | 0, _, _ => none
  | _, _, [] => none
  | bound + 1, first, (']', false) :: rest =>
    if first then single bound ']' rest else some ([], rest)
  | bound + 1, _, ('[', false) :: (':', false) :: rest =>
    match cutClass rest with
    | some (name, after) => do
      let ranges ← classRanges? (String.ofList name)
      let others ← readItems bound false after
      return (ranges ++ others.1, others.2)
    | none => single bound '[' ((':', false) :: rest)
  | bound + 1, _, (c, _) :: rest => single bound c rest
where
  single (bound : Nat) (low : Char) (rest : Marked) : Option (List (Char × Char) × Marked) :=
    match rest with
    | ('-', false) :: (']', false) :: _ => add bound (low, low) rest
    | ('-', false) :: (high, _) :: after => add bound (low, high) after
    | _ => add bound (low, low) rest
  add (bound : Nat) (range : Char × Char) (rest : Marked) :
      Option (List (Char × Char) × Marked) :=
    (readItems bound false rest).map fun others => (range :: others.1, others.2)

/-- Read a set behind its opening bracket, where a certain character that comes
first takes all others. -/
def read? (negation : Char) (text : Marked) : Option (CharSet × Marked) :=
  let negated := text.head? == some (negation, false)
  let body := if negated then text.drop 1 else text
  (readItems (body.length + 1) true body).map fun read => (⟨negated, read.1⟩, read.2)

end CharSet
end Toolbox
end CompilerRelay
