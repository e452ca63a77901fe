/-!
Reading bytes as UTF-8.

`decodeLossy` never fails: each longest piece that begins a character but does
not complete it, and each byte that begins none, becomes one replacement
character.  `decode?` is the strict reading, which refuses such bytes.  Both
walk the bytes with the same step `character`, so they differ only in what they
make of a broken piece.
-/

namespace CompilerRelay
namespace Text
namespace Utf8

/-- What a first byte of a longer character announces: the payload bits it
carries, how many bytes follow, and the range of the byte right after it. -/
structure Lead where
  payload : Nat
  owed : Nat
  low : Nat
  high : Nat

/-- The announcement of a first byte above ASCII, if it begins a character.
The narrowed ranges exclude overlong forms, surrogates and code points past
the last one. -/
def lead? (byte : UInt8) : Option Lead :=
  let b := byte.toNat
  if b < 0xC2 then none
  else if b ≤ 0xDF then some ⟨b - 0xC0, 1, 0x80, 0xBF⟩
  else if b = 0xE0 then some ⟨0, 2, 0xA0, 0xBF⟩
  else if b = 0xED then some ⟨0xD, 2, 0x80, 0x9F⟩
  else if b ≤ 0xEF then some ⟨b - 0xE0, 2, 0x80, 0xBF⟩
  else if b = 0xF0 then some ⟨0, 3, 0x90, 0xBF⟩
  else if b ≤ 0xF3 then some ⟨b - 0xF0, 3, 0x80, 0xBF⟩
  else if b = 0xF4 then some ⟨4, 3, 0x80, 0x8F⟩
  else none

/-- Take the bytes still owed to a character.  The first byte out of range
stays unread, so a broken character gives up its own bytes only. -/
def continuation : Nat → Nat → Nat → Nat → List UInt8 → Option Nat × List UInt8
  | 0, _, _, code, bytes => (some code, bytes)
  | _ + 1, _, _, _, [] => (none, [])
  | owed + 1, low, high, code, byte :: rest =>
    if low ≤ byte.toNat ∧ byte.toNat ≤ high then
      continuation owed 0x80 0xBF (code * 64 + (byte.toNat - 0x80)) rest
    else (none, byte :: rest)

theorem continuation_length_le (owed low high code : Nat) (bytes : List UInt8) :
    (continuation owed low high code bytes).2.length ≤ bytes.length := by
  induction owed generalizing low high code bytes with
  | zero => simp [continuation]
  | succ owed ih =>
    cases bytes with
    | nil => simp [continuation]
    | cons byte rest =>
      simp only [continuation]
      split
      · exact Nat.le_succ_of_le (ih ..)
      · exact Nat.le_refl _

/-- Read one character, or one broken piece (`none`), and what follows it. -/
def character (byte : UInt8) (rest : List UInt8) : Option Char × List UInt8 :=
  if byte.toNat < 0x80 then (some (Char.ofNat byte.toNat), rest)
  else match lead? byte with
    | none => (none, rest)
    | some lead =>
      let read := continuation lead.owed lead.low lead.high lead.payload rest
      (read.1.map Char.ofNat, read.2)

theorem character_length_le (byte : UInt8) (rest : List UInt8) :
    (character byte rest).2.length ≤ rest.length := by
  unfold character
  split
  · exact Nat.le_refl _
  · split
    · exact Nat.le_refl _
    · exact continuation_length_le ..

/-- What stands for a piece that is no character. -/
def replacement : Char := '\uFFFD'

/-- Decode bytes, putting a replacement character for each broken piece. -/
def decodeLossy : List UInt8 → List Char
  | [] => []
  | byte :: rest =>
    (character byte rest).1.getD replacement :: decodeLossy (character byte rest).2
termination_by bytes => bytes.length
decreasing_by exact Nat.lt_succ_of_le (character_length_le byte rest)

/-- Decode bytes that are UTF-8 throughout. -/
def decode? : List UInt8 → Option (List Char)
  | [] => some []
  | byte :: rest =>
    match (character byte rest).1 with
    | none => none
    | some c => (decode? (character byte rest).2).map (c :: ·)
termination_by bytes => bytes.length
decreasing_by exact Nat.lt_succ_of_le (character_length_le byte rest)

def encode (text : List Char) : List UInt8 :=
  text.flatMap String.utf8EncodeChar

def width (c : Char) : Nat :=
  c.utf8Size

end Utf8
end Text
end CompilerRelay
