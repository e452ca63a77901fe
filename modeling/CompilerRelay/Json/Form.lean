import CompilerRelay.Json.Decoder

/-!
Forms: records with named fields.

A form lists its fields in the order they are declared.  It can be filled from
an object, whose members are looked at in their own order and whose unknown
members are ignored, or from an array that gives the fields by position.  An
object's complaints come before those about fields that are missing, and a
missing field is reported in the order of declaration.
-/

namespace CompilerRelay

/-- What a field holds where its input does not mention it. -/
inductive Absence (α : Type) where
  /-- The field has to be there. -/
  | required
  /-- A value taken for a missing member; an array has to give the field. -/
  | member (value : α)
  /-- A value taken for a missing member and for a missing element. -/
  | anywhere (value : α)

namespace Absence

/-- The value of a missing member. -/
def ofMember? : Absence α → Option α
  | required => none
  | member value => some value
  | anywhere value => some value

/-- The value of a missing element. -/
def ofElement? : Absence α → Option α
  | anywhere value => some value
  | _ => none

end Absence

/-- A record read from named or positioned parts. -/
structure Form (α : Type) where
  /-- The fields in order, each with the complaint a value of it may raise. -/
  fields : List (String × (Json → Option DecodeError))
  /-- Fill the form given how to find a member. -/
  ofMembers : (String → Option Json) → Except DecodeError α
  /-- Fill the form from elements, given how many come before them and the
  wording for one that is missing. -/
  ofElements : Nat → String → List Json → Except DecodeError (α × List Json)

namespace Form

protected def pure (value : α) : Form α where
  fields := []
  ofMembers _ := .ok value
  ofElements _ _ elements := .ok (value, elements)

def field (name : String) (decode : Decoder α) (absence : Absence α) : Form α where
  fields := [(name, fun value => match decode value with
    | .ok _ => none
    | .error complaint => some complaint)]
  ofMembers find := match find name, absence.ofMember? with
    | some value, _ => decode value
    | none, some value => .ok value
    | none, none => .error (.missingField name)
  ofElements before wanted
    | value :: rest => (decode value).map (·, rest)
    | [] => match absence.ofElement? with
      | some value => .ok (value, [])
      | none => .error (.invalidLength before wanted)

/-- A form for a function next to a form for its argument. -/
protected def seq (f : Form (α → β)) (x : Form α) : Form β where
  fields := f.fields ++ x.fields
  ofMembers find := do
    let g ← f.ofMembers find
    let value ← x.ofMembers find
    return g value
  ofElements before wanted elements := do
    let (g, rest) ← f.ofElements before wanted elements
    let (value, rest) ← x.ofElements (before + f.fields.length) wanted rest
    return (g value, rest)

/-- A field that has to be there. -/
def required (name : String) (decode : Decoder α) : Form α :=
  field name decode .required

/-- A field that may be missing from an object or null. -/
def optional (name : String) (decode : Decoder α) : Form (Option α) :=
  field name (Decoder.option decode) (.member none)

/-- A field that may also be missing at the end of an array. -/
def trailing (name : String) (decode : Decoder α) (value : α) : Form α :=
  field name decode (.anywhere value)

/-- Apply a form for a function to one further form. -/
def and (f : Form (α → β)) (x : Form α) : Form β :=
  Form.seq f x

/-- The first complaint about the members of an object, in their order. -/
def complaint? (form : Form α) : List (String × Json) → Option DecodeError
  | [] => none
  | (name, value) :: rest =>
    match (form.fields.lookup name).bind (· value) with
    | some complaint => some complaint
    | none => form.complaint? rest

def decodeMembers (form : Form α) (members : List (String × Json)) : Except DecodeError α :=
  match form.complaint? members with
  | some complaint => .error complaint
  | none => form.ofMembers (Json.find? · members)

/-- The first field that members give again. -/
def repeated? (form : Form α) (members : List (String × Json)) : Option String :=
  (form.fields.map Prod.fst).find? fun name => 1 < (members.map Prod.fst).count name

/-- Fill a form from an object as it is written, which may give no field again. -/
def decodeOnce (form : Form α) (members : List (String × Json)) : Except DecodeError α :=
  match form.repeated? members with
  | some name => .error (.duplicateField name)
  | none => form.decodeMembers members

/-- How an array's wrong length is worded. -/
inductive Excess where
  /-- Told by the length of the whole array. -/
  | ofArray
  /-- Told by the number of fields, after the elements were set aside. -/
  | ofSequence

/-- The complaint about an array with elements left over. -/
def Excess.complaint (excess : Excess) (fields length : Nat) : DecodeError :=
  match excess with
  | ofArray => .invalidLength length "fewer elements in array"
  | ofSequence =>
    .invalidLength length
      (toString fields ++ (if fields = 1 then " element" else " elements") ++ " in sequence")

/-- The wording for a record that is given too few elements. -/
def wantedLength (name : String) (fields : Nat) : String :=
  name ++ " with " ++ toString fields ++ (if fields = 1 then " element" else " elements")

/-- Fill a form from an array. -/
def decodeElements (form : Form α) (excess : Excess) (name : String) (elements : List Json) :
    Except DecodeError α := do
  let (value, rest) ← form.ofElements 0 (wantedLength name form.fields.length) elements
  if rest.isEmpty then return value
  else throw (excess.complaint form.fields.length elements.length)

/-- Fill a form from an object or an array. -/
def decodeWith (form : Form α) (excess : Excess) (name : String) : Decoder α
  | .obj members => form.decodeMembers members
  | .arr elements => form.decodeElements excess name elements
  | other => Decoder.wrongType name other

/-- Fill a form from an object or an array. -/
def decode (form : Form α) (name : String) : Decoder α :=
  form.decodeWith .ofArray name

/-- Fill a form from an object alone. -/
def decodeObject (form : Form α) (name : String) : Decoder α
  | .obj members => form.decodeMembers members
  | other => Decoder.wrongType name other

end Form
end CompilerRelay
