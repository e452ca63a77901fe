import CompilerRelay.Json.Render

/-!
Reading domain values out of JSON values.

A decoder either yields a value or says what was wrong, and the wording of
each complaint is in `DecodeError.message` alone.  Integers are decoded into a
bounded range: a literal outside it is an invalid *value*, while a literal of
another kind has an invalid *type*.
-/

namespace CompilerRelay

/-- Why a JSON value does not denote what was asked for. -/
inductive DecodeError where
  /-- A value of the wrong kind, described, and the kind that was wanted. -/
  | invalidType (found wanted : String)
  /-- A value of the right kind that is out of range. -/
  | invalidValue (found wanted : String)
  | missingField (name : String)
  | duplicateField (name : String)
  | unknownVariant (name : String) (known : List String)
  /-- A sequence with the wrong number of elements. -/
  | invalidLength (found : Nat) (wanted : String)
  | other (text : String)
  deriving DecidableEq, Repr

namespace DecodeError

private def ticked (name : String) : String :=
  "`" ++ name ++ "`"

def message : DecodeError → String
  | invalidType found wanted => "invalid type: " ++ found ++ ", expected " ++ wanted
  | invalidValue found wanted => "invalid value: " ++ found ++ ", expected " ++ wanted
  | missingField name => "missing field " ++ ticked name
  | duplicateField name => "duplicate field " ++ ticked name
  | unknownVariant name [] => "unknown variant " ++ ticked name ++ ", there are no variants"
  | unknownVariant name [only] => "unknown variant " ++ ticked name ++ ", expected " ++ ticked only
  | unknownVariant name [first, second] =>
    "unknown variant " ++ ticked name ++ ", expected " ++ ticked first ++ " or " ++ ticked second
  | unknownVariant name known =>
    "unknown variant " ++ ticked name ++ ", expected one of "
      ++ ", ".intercalate (known.map ticked)
  | invalidLength found wanted =>
    "invalid length " ++ toString found ++ ", expected " ++ wanted
  | other text => text

end DecodeError

/-- A way to read values of one type. -/
abbrev Decoder (α : Type) := Json → Except DecodeError α

namespace Json

/-- How a complaint names the value it found. -/
def description : Json → String
  | null => "null"
  | bool true => "boolean `true`"
  | bool false => "boolean `false`"
  | int value => "integer `" ++ String.ofList (intText value) ++ "`"
  | float value => "floating point `" ++ String.ofList (floatLayout.render value) ++ "`"
  | str value => "string " ++ Text.quoted value
  | arr _ => "sequence"
  | obj _ => "map"

end Json

namespace Decoder

/-- The complaint about a value of the wrong kind. -/
def wrongType (wanted : String) (found : Json) : Except DecodeError α :=
  .error (.invalidType found.description wanted)

def json : Decoder Json :=
  .ok

def string : Decoder String
  | .str value => .ok value
  | other => wrongType "a string" other

def bool : Decoder Bool
  | .bool value => .ok value
  | other => wrongType "a boolean" other

/-- An integer between two bounds, both included. -/
def integer (wanted : String) (least greatest : Int) : Decoder Int
  | .int value =>
    if least ≤ value ∧ value ≤ greatest then .ok value
    else .error (.invalidValue (Json.int value).description wanted)
  | other => wrongType wanted other

/-- An integer that is not negative and below a bound. -/
def natural (wanted : String) (bound : Nat) : Decoder Nat :=
  fun value => (integer wanted 0 (bound - 1) value).map Int.toNat

def word64 : Decoder Nat :=
  natural "u64" (Word.size 64)

def word32 : Decoder Nat :=
  natural "u32" (Word.size 32)

def int32 : Decoder Int :=
  integer "i32" (-Word.size 31) (Word.size 31 - 1)

/-- Nothing where there is null, and a value otherwise. -/
def option (decode : Decoder α) : Decoder (Option α)
  | .null => .ok none
  | value => (decode value).map some

/-- Every element of an array; the first complaint counts. -/
def list (decode : Decoder α) : Decoder (List α)
  | .arr items => items.mapM decode
  | other => wrongType "a sequence" other

/-- One of several named alternatives, given by its name or as the only member
of an object whose value is null. -/
def choice (choices : List (String × α)) : Decoder α
  | .str name => choose name
  | .obj [(name, content)] => do
    let chosen ← choose name
    match content with
    | .null => pure chosen
    | other => wrongType "unit" other
  | .obj _ => .error (.invalidValue "map" "map with a single key")
  | other => wrongType "string or map" other
where
  choose (name : String) : Except DecodeError α :=
    match choices.lookup name with
    | some chosen => .ok chosen
    | none => .error (.unknownVariant name (choices.map Prod.fst))

/-- Read alternatives in turn; the first that fits counts. -/
def firstOf (name : String) (alternatives : List (Decoder α)) : Decoder α :=
  fun value =>
    match alternatives.findSome? fun decode => (decode value).toOption with
    | some found => .ok found
    | none => .error (.other ("data did not match any variant of untagged enum " ++ name))

end Decoder
end CompilerRelay
