import CompilerRelay.Text.Blank

/-!
Frames on a stream of bytes.

A text is sent as its bytes behind a header, and the header says how many they
are.  The header is made of lines, each a name and a value, and ends with an
empty line.  Names that are not known are passed over.
-/

namespace CompilerRelay
namespace Rpc
namespace Frame

def encode (text : String) : String :=
  "Content-Length: " ++ toString text.utf8ByteSize ++ "\r\n\r\n" ++ text

/-- The first line of a stream, without its end, and what follows it. -/
def cutLine : List UInt8 → Option (List UInt8 × List UInt8)
  | [] => none
  | 10 :: rest => some ([], rest)
  | 13 :: 10 :: rest => some ([], rest)
  | byte :: rest => (cutLine rest).map fun cut => (byte :: cut.1, cut.2)

theorem length_lt_of_cutLine {stream line rest : List UInt8}
    (h : cutLine stream = some (line, rest)) : rest.length < stream.length := by
  fun_induction cutLine stream generalizing line with
  | case1 => simp at h
  | case2 =>
    simp only [Option.some.injEq, Prod.mk.injEq] at h
    simp only [← h.2, List.length_cons]
    omega
  | case3 =>
    simp only [Option.some.injEq, Prod.mk.injEq] at h
    simp only [← h.2, List.length_cons]
    omega
  | case4 byte more _ _ ih =>
    obtain ⟨cut, found, same⟩ := Option.map_eq_some_iff.1 h
    have whole : cutLine more = some (cut.1, rest) := by rw [found, ← (Prod.mk.inj same).2]
    have shorter := ih whole
    simp only [List.length_cons]
    omega

/-- What a header says so far. -/
structure Header where
  length : Option Nat := none
  /-- A line is no name with a value, or the value cannot be used. -/
  malformed : Bool := false

namespace Header

/-- The longest header that is read: its number of lines. -/
def lineLimit : Nat := 2

def count? (value : List Char) : Option Nat :=
  if value.isEmpty ∨ value.any (fun c => !c.isDigit) then none
  else some (value.foldl (fun number c => number * 10 + (c.toNat - '0'.toNat)) 0)

/-- Whether a description of the content promises texts that are read here. -/
def isReadable (value : List Char) : Bool :=
  ((String.ofList value).splitOn ";").tail.any fun parameter =>
    let trimmed := String.ofList (Text.trim parameter.toList)
    trimmed == "charset=utf-8" || trimmed == "charset=utf8"

/-- Read a line. -/
def take (header : Header) (line : List UInt8) : Header :=
  let text := line.map fun byte => Char.ofNat byte.toNat
  let name := String.ofList (text.takeWhile (· != ':'))
  match text.dropWhile (· != ':') with
  | [] => { header with malformed := true }
  | _ :: rest =>
    let value := Text.trim rest
    if name = "Content-Length" then
      match count? value with
      | some length => { header with length := some length }
      | none => { header with malformed := true }
    else if name = "Content-Type" then
      { header with malformed := header.malformed || !isReadable value }
    else header

end Header

/-- What a stream begins with. -/
inductive Cut where
  /-- More has to come before anything can be said. -/
  | incomplete
  /-- No frame. -/
  | malformed
  /-- A frame with this content, and what follows it. -/
  | content (body rest : List UInt8)

/-- Cut the first frame off a stream, with so many lines of the header to come
at most. -/
def cutAfter (header : Header) : Nat → List UInt8 → Cut
  | lines, stream =>
    match cutLine stream with
    | none => .incomplete
    | some ([], rest) =>
      match header.malformed, header.length with
      | false, some length =>
        if length ≤ rest.length then .content (rest.take length) (rest.drop length)
        else .incomplete
      | _, _ => .malformed
    | some (line, rest) =>
      match lines with
      | 0 => .malformed
      | lines + 1 => cutAfter (header.take line) lines rest

def cut (stream : List UInt8) : Cut :=
  cutAfter {} Header.lineLimit stream

theorem length_lt_of_cutAfter {header : Header} {lines : Nat} {stream body rest : List UInt8}
    (h : cutAfter header lines stream = .content body rest) : rest.length < stream.length := by
  induction lines generalizing header stream with
  | zero =>
    unfold cutAfter at h
    split at h
    · simp at h
    · rename_i more found
      have shorter := length_lt_of_cutLine found
      split at h
      · split at h
        · simp only [Cut.content.injEq] at h
          rw [← h.2, List.length_drop]
          omega
        · simp at h
      · simp at h
    · simp at h
  | succ lines ih =>
    unfold cutAfter at h
    split at h
    · simp at h
    · rename_i more found
      have shorter := length_lt_of_cutLine found
      split at h
      · split at h
        · simp only [Cut.content.injEq] at h
          rw [← h.2, List.length_drop]
          omega
        · simp at h
      · simp at h
    · rename_i line more _ found
      have shorter := length_lt_of_cutLine found
      have further := ih h
      omega

theorem length_lt_of_cut {stream body rest : List UInt8} (h : cut stream = .content body rest) :
    rest.length < stream.length :=
  length_lt_of_cutAfter h

end Frame
end Rpc
end CompilerRelay
