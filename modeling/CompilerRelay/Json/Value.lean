import CompilerRelay.Number.Binary64
import CompilerRelay.Number.Word

/-!
JSON values.

Integers and floating point numbers are kept apart, because a literal keeps
its kind through the program.  The members of an object are sorted by name and
their names differ; `Json.ofMembers` builds such an object from members in any
order, and the last of several members with one name wins.
-/

namespace CompilerRelay

/-- A JSON value. -/
inductive Json where
  | null
  | bool (value : Bool)
  | int (value : Int)
  | float (value : Binary64)
  | str (value : String)
  | arr (items : List Json)
  | obj (members : List (String × Json))
  deriving BEq, Repr, Inhabited

namespace Json

/-- The value of the first member with a name. -/
def find? (name : String) : List (String × Json) → Option Json
  | [] => none
  | (key, value) :: rest => if key = name then some value else find? name rest

/-- Put a member among sorted members, in place of one with the same name. -/
def insertMember (name : String) (value : Json) : List (String × Json) → List (String × Json)
  | [] => [(name, value)]
  | (key, old) :: rest =>
    if name = key then (name, value) :: rest
    else if name < key then (name, value) :: (key, old) :: rest
    else (key, old) :: insertMember name value rest

/-- An object with the given members; the last of one name wins. -/
def ofMembers (members : List (String × Json)) : Json :=
  obj (members.foldl (fun sorted member => insertMember member.1 member.2 sorted) [])

mutual

/-- A value whose objects are sorted, when it holds them as they are written. -/
def sorted : Json → Json
  | arr items => arr (sortedItems items)
  | obj members => ofMembers (sortedMembers members)
  | other => other

def sortedItems : List Json → List Json
  | [] => []
  | item :: rest => item.sorted :: sortedItems rest

def sortedMembers : List (String × Json) → List (String × Json)
  | [] => []
  | (name, value) :: rest => (name, value.sorted) :: sortedMembers rest

end

def member? (name : String) : Json → Option Json
  | obj members => find? name members
  | _ => none

def isNull : Json → Bool
  | null => true
  | _ => false

/-- A value that is an integer of 64 bits without a sign. -/
def word64? : Json → Option Nat
  | int value => if 0 ≤ value ∧ value < Word.size 64 then some value.toNat else none
  | _ => none

end Json
end CompilerRelay
