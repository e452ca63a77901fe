import CompilerRelay.Json.Form

/-!
Checks: values that are looked at and not kept.

A record whose contents do not matter still has to be well formed.  A check
complains about a value as a decoder of the record would, in the same order
and the same words.
-/

namespace CompilerRelay

/-- A way to look at values that keeps nothing. -/
abbrev Check := Decoder Unit

namespace Check

def ofDecoder (decode : Decoder α) : Check :=
  fun value => (decode value).map fun _ => ()

def anything : Check :=
  fun _ => .ok ()

def flag : Check :=
  ofDecoder Decoder.bool

def text : Check :=
  ofDecoder Decoder.string

/-- An integer that stands for one of several alternatives. -/
def code : Check :=
  ofDecoder Decoder.int32

/-- A number that counts something. -/
def count : Check :=
  ofDecoder Decoder.word32

/-- Any number, where fractions are wanted. -/
def fraction : Check
  | .int _ => .ok ()
  | .float _ => .ok ()
  | other => Decoder.wrongType "f32" other

def listOf (check : Check) : Check :=
  ofDecoder (Decoder.list check)

/-- The name of one of several alternatives. -/
def oneOf (names : List String) : Check :=
  Decoder.choice (names.map fun name => (name, ()))

def field (name : String) (check : Check) : Form Unit :=
  Form.required name check

/-- A field that may be missing from an object or null. -/
def optional (name : String) (check : Check) : Form Unit :=
  Form.field name (ofDecoder (Decoder.option check)) (.member ())

/-- A field that may be missing from an object or from the end of an array. -/
def trailing (name : String) (check : Check) : Form Unit :=
  Form.field name check (.anywhere ())

def fields : List (Form Unit) → Form Unit
  | [] => Form.pure ()
  | first :: rest => (Form.pure fun _ _ => ()).and first |>.and (fields rest)

/-- A record with the given fields. -/
def record (name : String) (parts : List (Form Unit)) : Check :=
  (fields parts).decode ("struct " ++ name)

/-- A record that shares groups of fields with others.  It is filled from an
object alone: its own fields come first, then the groups in their order. -/
def sharing (name : String) (own : List (Form Unit)) (groups : List (Form Unit)) : Check
  | .obj members => do
    (fields own).decodeMembers members
    for group in groups do
      group.decodeMembers members
  | other => Decoder.wrongType ("struct " ++ name) other

end Check
end CompilerRelay
