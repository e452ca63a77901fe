import CompilerRelay.Number.Binary64

/-!
Similarity of texts.

Two characters match when they are equal and stand at nearly the same place;
each takes part in one match only.  Matches that come in another order count
half.  The similarity is the mean of the share of either text that matches and
the share of the matches that are in order.  Each step of the mean is rounded
to a binary floating point number, so means that are equal as fractions may
differ in the last bit, and one that is on a limit may pass it.
-/

namespace CompilerRelay
namespace Text

/-- How far apart two characters may stand that match. -/
def matchReach (a b : List Char) : Nat :=
  max a.length b.length / 2 - 1

/-- The first place near another place that holds a character and is free. -/
def matchPlace? (b : List Char) (taken : List Nat) (reach place : Nat) (c : Char) : Option Nat :=
  b.zipIdx.findSome? fun (other, spot) =>
    if other = c ∧ place ≤ spot + reach ∧ spot ≤ place + reach ∧ spot ∉ taken then some spot
    else none

/-- The pairs of places that match, in the order of the first text. -/
def matchPlaces (a b : List Char) : List (Nat × Nat) :=
  a.zipIdx.foldl (fun found (c, place) =>
    match matchPlace? b (found.map Prod.snd) (matchReach a b) place c with
    | some other => found ++ [(place, other)]
    | none => found) []

def share? (part whole : Nat) : Option Binary64 :=
  Binary64.ofRatio? false part whole

def mean? (x y z : Binary64) : Option Binary64 := do
  (← (← x.add? y).add? z).div? (← Binary64.ofNat? 3)

/-- The similarity of two texts, or `none` when nothing in them matches. -/
def similarity? (a b : List Char) : Option Binary64 := do
  let pairs := matchPlaces a b
  let count := pairs.length
  if count = 0 then none
  else
    let first := pairs.filterMap fun pair => a[pair.1]?
    let second := ((pairs.map Prod.snd).mergeSort).filterMap fun place => b[place]?
    let displaced := ((first.zip second).countP fun pair => pair.1 != pair.2) / 2
    mean? (← share? count a.length) (← share? count b.length)
      (← share? (count - displaced) count)

end Text
end CompilerRelay
