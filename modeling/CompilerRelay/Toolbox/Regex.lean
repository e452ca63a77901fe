import CompilerRelay.Toolbox.CharSet

/-!
Regular expressions and where they match.

Of all matches the one counts that begins first, and of those the longest.  So
a match is looked for in two steps: the places that an expression can reach
from a start are gathered first, and then the way to the farthest of them is
followed, on which each repetition takes as much as it can.  Groups hold the
text they matched last.
-/

namespace CompilerRelay
namespace Toolbox

/-- Which characters make words. -/
def isWordChar (c : Char) : Bool :=
  c.isAlphanum || c == '_'

/-- A regular expression. -/
inductive Regex where
  | empty
  | oneOf (set : CharSet)
  /-- The beginning and the end of a line. -/
  | lineStart
  | lineEnd
  /-- The beginning and the end of the text. -/
  | textStart
  | textEnd
  /-- Between a character of a word and none: at its beginning, at its end, at
  either or at neither. -/
  | wordStart
  | wordEnd
  | wordEdge
  | noEdge
  | both (first second : Regex)
  | either (first second : Regex)
  | group (number : Nat) (inner : Regex)
  /-- The text that a group matched. -/
  | again (number : Nat)
  | times (inner : Regex) (least : Nat) (greatest : Option Nat)
  deriving Repr

/-- Whether an expression asks for a place and takes no text. -/
def Regex.takesNothing : Regex → Bool
  | .lineStart => true
  | .lineEnd => true
  | .textStart => true
  | .textEnd => true
  | .wordStart => true
  | .wordEnd => true
  | .wordEdge => true
  | .noEdge => true
  | _ => false

/-- An expression with how it is to be matched. -/
structure Pattern where
  regex : Regex
  /-- How many groups there are. -/
  groups : Nat
  ignoreCase : Bool
  /-- Lines begin and end inside the text too. -/
  multiline : Bool
  deriving Repr

/-- A place in a text: the character before it and what follows it. -/
structure Spot where
  previous : Option Char
  rest : List Char
  deriving Repr

namespace Spot

/-- The place behind the next characters. -/
def advance (spot : Spot) : Nat → Spot
  | 0 => spot
  | count + 1 =>
    match spot.rest with
    | [] => spot
    | c :: rest => advance ⟨some c, rest⟩ count

def afterWord (spot : Spot) : Bool :=
  (spot.previous.map isWordChar).getD false

def beforeWord (spot : Spot) : Bool :=
  (spot.rest.head?.map isWordChar).getD false

/-- Places of two lists that are ordered from the front of the text, without
repetitions. -/
def merge (a b : List Spot) : List Spot :=
  match a, b with
  | [], b => b
  | a, [] => a
  | x :: restA, y :: restB =>
    if x.rest.length = y.rest.length then x :: merge restA restB
    else if y.rest.length < x.rest.length then x :: merge restA (y :: restB)
    else y :: merge (x :: restA) restB
termination_by a.length + b.length

end Spot

/-- The texts that groups have matched, the latest first. -/
abbrev Groups := List (Nat × List Char)

namespace Pattern

/-- Whether a set holds a character, in either case if cases do not matter. -/
def holds (p : Pattern) (set : CharSet) (c : Char) : Bool :=
  if p.ignoreCase then set.holdsEitherCase c else set.holds c

/-- Whether a place is what an expression asks for that takes no text. -/
def stands (p : Pattern) (spot : Spot) : Regex → Bool
  | .empty => true
  | .lineStart => spot.previous.isNone || (p.multiline && spot.previous == some '\n')
  | .lineEnd => spot.rest.isEmpty || (p.multiline && spot.rest.head? == some '\n')
  | .textStart => spot.previous.isNone
  | .textEnd => spot.rest.isEmpty
  | .wordStart => !spot.afterWord && spot.beforeWord
  | .wordEnd => spot.afterWord && !spot.beforeWord
  | .wordEdge => spot.afterWord != spot.beforeWord
  | .noEdge => spot.afterWord == spot.beforeWord
  | _ => false

/-- The place behind the next character if a set holds it. -/
def taken? (p : Pattern) (set : CharSet) (spot : Spot) : Option Spot :=
  match spot.rest with
  | [] => none
  | c :: rest => if p.holds set c then some ⟨some c, rest⟩ else none

/-- The place behind a text. -/
def behind? (spot : Spot) (text : List Char) : Option Spot :=
  if text.isPrefixOf spot.rest then some (spot.advance text.length) else none

/-! ## What can be reached -/

/-- The places that are reached by a step taken that many times at most, from
the latest ones on. -/
def closure (step : List Spot → List Spot) : Nat → List Spot → List Spot → List Spot
  | 0, reached, _ => reached
  | _, reached, [] => reached
  | bound + 1, reached, latest =>
    let next := (step latest).filter fun spot =>
      !reached.any fun other => other.rest.length == spot.rest.length
    closure step bound (Spot.merge reached next) next

/-- The places behind the next characters of a set, at least and, if bounded, at
most that many. -/
def chain (p : Pattern) (set : CharSet) : Nat → Option Nat → Spot → List Spot
  | least, greatest, ⟨previous, rest⟩ => go least greatest previous rest
where
  go (least : Nat) (greatest : Option Nat) (previous : Option Char) : List Char → List Spot
    | [] => if least = 0 then [⟨previous, []⟩] else []
    | c :: rest =>
      let here := if least = 0 then [⟨previous, c :: rest⟩] else []
      if greatest = some 0 || !p.holds set c then here
      else here ++ go (least - 1) (greatest.map (· - 1)) (some c) rest

/-- The places that an expression reaches from some places, ordered from the
front.  A group's text is not known here, so it is taken for any text. -/
def reach (p : Pattern) : Regex → List Spot → List Spot
  | .oneOf set, spots => spots.filterMap (p.taken? set)
  | .both first second, spots => p.reach second (p.reach first spots)
  | .either first second, spots => Spot.merge (p.reach first spots) (p.reach second spots)
  | .group _ inner, spots => p.reach inner spots
  | .again _, spots =>
    spots.foldl (fun found spot =>
      Spot.merge found ((List.range (spot.rest.length + 1)).map spot.advance)) []
  | .times (.oneOf set) least greatest, spots =>
    spots.foldl (fun found spot => Spot.merge found (p.chain set least greatest spot)) []
  | .times inner least greatest, spots =>
    let first := (List.range least).foldl (fun spots _ => p.reach inner spots) spots
    let longest := (spots.head?.map fun spot => spot.rest.length).getD 0
    let bound := match greatest with
      | none => longest + 1
      | some greatest => min (greatest - least) (longest + 1)
    closure (p.reach inner) bound first first
  | still, spots => spots.filter fun spot => p.stands spot still

/-! ## The way there -/

/-- Repeat as often as possible, and less often where what follows fails.  A
repetition that takes no text is made only to reach the least number. -/
def repeated (step : Spot → Groups → (Spot → Groups → Option Groups) → Option Groups) :
    Nat → Nat → Option Nat → Spot → Groups → (Spot → Groups → Option Groups) → Option Groups
  | 0, least, _, spot, groups, go => if least = 0 then go spot groups else none
  | bound + 1, least, greatest, spot, groups, go =>
    let further := if greatest = some 0 then none
      else step spot groups fun next inner =>
        if next.rest.length = spot.rest.length ∧ least = 0 then none
        else repeated step bound (least - 1) (greatest.map (· - 1)) next inner go
    match further with
    | some found => some found
    | none => if least = 0 then go spot groups else none

/-- Match an expression and then what follows; the groups of the first way that
succeeds. -/
def follow (p : Pattern) : Regex → Spot → Groups → (Spot → Groups → Option Groups) →
    Option Groups
  | .oneOf set, spot, groups, go => (p.taken? set spot).bind (go · groups)
  | .both first second, spot, groups, go =>
    p.follow first spot groups fun next inner => p.follow second next inner go
  | .either first second, spot, groups, go =>
    match p.follow first spot groups go with
    | some found => some found
    | none => p.follow second spot groups go
  | .group number inner, spot, groups, go =>
    p.follow inner spot groups fun next inner =>
      go next ((number, spot.rest.take (spot.rest.length - next.rest.length)) :: inner)
  | .again number, spot, groups, go =>
    (groups.lookup number).bind fun text => (behind? spot text).bind (go · groups)
  | .times inner least greatest, spot, groups, go =>
    repeated (p.follow inner) (spot.rest.length + least + 1) least greatest spot groups go
  | still, spot, groups, go => if p.stands spot still then go spot groups else none

/-- The match that begins at a place, if there is one: the place it ends at and
its groups. -/
def matchAt? (p : Pattern) (spot : Spot) : Option (Spot × Groups) :=
  (p.reach p.regex [spot]).reverse.findSome? fun last =>
    (p.follow p.regex spot [] fun next groups =>
      if next.rest.length = last.rest.length then some groups else none).map (last, ·)

/-- A match in a text. -/
structure Match where
  /-- The text between the place where it was looked for and the match. -/
  before : List Char
  inside : List Char
  /-- The place behind the match. -/
  after : Spot
  groups : Groups

/-- The first match behind a place, which is looked for at that many further
places at most. -/
def search? (p : Pattern) : Nat → Spot → Option Match
  | bound, spot =>
    match p.matchAt? spot with
    | some (last, groups) =>
      some ⟨[], spot.rest.take (spot.rest.length - last.rest.length), last, groups⟩
    | none =>
      match bound, spot.rest with
      | bound + 1, c :: rest =>
        (p.search? bound ⟨some c, rest⟩).map fun found => { found with before := c :: found.before }
      | _, _ => none

def find? (p : Pattern) (text : List Char) : Option Match :=
  p.search? text.length ⟨none, text⟩

end Pattern
end Toolbox
end CompilerRelay
