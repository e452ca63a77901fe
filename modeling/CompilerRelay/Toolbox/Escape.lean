import CompilerRelay.Toolbox.Program

/-!
Escapes in texts that are written.

A backslash and what follows it stand for one byte, or for nothing and the end
of all output.  Programs differ in which escapes they read, and an escape that
is not read stays as it is.
-/

namespace CompilerRelay
namespace Toolbox

/-- Which escapes are read. -/
structure Escapes where
  /-- Hexadecimal escapes of a byte. -/
  hexadecimal : Bool
  /-- Escaped quotes and the numbers of characters; a hexadecimal escape has to
  have a digit. -/
  strict : Bool
  /-- An octal escape may begin with a zero that does not count as a digit. -/
  leadingZero : Bool
  /-- The escape that ends all output. -/
  stops : Bool

namespace Escapes

/-- Of the shell's own command that says words. -/
def shellSpeech : Escapes := ⟨false, false, true, true⟩

/-- Of the program that says words. -/
def programSpeech : Escapes := ⟨true, false, true, true⟩

/-- Of a format of the shell's own command. -/
def shellFormat : Escapes := ⟨false, false, false, false⟩

/-- Of a format of the program. -/
def programFormat : Escapes := ⟨true, true, false, true⟩

/-- Of an argument in which escapes are read. -/
def ofArgument (escapes : Escapes) : Escapes :=
  { escapes with leadingZero := true, stops := true }

end Escapes

/-- What an escape is. -/
inductive Escape where
  | text (chars rest : List Char)
  /-- The end of all output. -/
  | stop
  /-- An escape that lacks its digits, after which nothing is written. -/
  | broken

namespace Escape

/-- An octal escape of at most three digits. -/
def octal (leadingZero : Bool) (digits : List Char) : Escape :=
  let read := readDigits 8 (if leadingZero && digits.head? = some '0' then 4 else 3) 0 digits
  text [Char.ofNat (read.1 % 256)] read.2

/-- The number of a character in hexadecimal digits.  One that is no plain
character is written with its number. -/
def universal (letter : Char) (count : Nat) (digits : List Char) : Escape :=
  let read := readDigits 16 count 0 digits
  if read.2.length + count ≠ digits.length then broken
  else if read.1 < 128 then text [Char.ofNat read.1] read.2
  else
    let shown := (Nat.toDigits 16 read.1).map Char.toUpper
    let letter := if letter = 'U' ∧ shown.length ≤ 4 then 'u' else letter
    let width := if letter = 'u' then 4 else 8
    text ('\\' :: letter :: List.replicate (width - shown.length) '0' ++ shown) read.2

def read (escapes : Escapes) (rest : List Char) : Escape :=
  match rest with
  | [] => text ['\\'] []
  | 'n' :: more => text ['\n'] more
  | 't' :: more => text ['\t'] more
  | 'r' :: more => text ['\r'] more
  | 'a' :: more => text [Char.ofNat 7] more
  | 'b' :: more => text [Char.ofNat 8] more
  | 'e' :: more => text [Char.ofNat 27] more
  | 'f' :: more => text [Char.ofNat 12] more
  | 'v' :: more => text [Char.ofNat 11] more
  | '\\' :: more => text ['\\'] more
  | '"' :: more => text (if escapes.strict then ['"'] else ['\\', '"']) more
  | 'c' :: more => if escapes.stops then stop else text ['\\', 'c'] more
  | 'x' :: more =>
    let read := readDigits 16 2 0 more
    if !escapes.hexadecimal then text ['\\', 'x'] more
    else if read.2.length < more.length then text [Char.ofNat read.1] read.2
    else if escapes.strict then broken else text ['\\', 'x'] more
  | 'u' :: more => if escapes.strict then universal 'u' 4 more else text ['\\', 'u'] more
  | 'U' :: more => if escapes.strict then universal 'U' 8 more else text ['\\', 'U'] more
  | c :: more =>
    if (digitValue? 8 c).isSome then octal escapes.leadingZero (c :: more)
    else text ['\\', c] more

end Escape

/-- A text with its escapes read. -/
structure Unescaped where
  text : List Char
  /-- Nothing may follow the text. -/
  stopped : Bool
  /-- An escape was broken. -/
  broken : Bool

/-- Read the escapes of a text, up to one that ends it. -/
def unescaped (escapes : Escapes) (text : List Char) : Unescaped :=
  go (text.length + 1) text
where
  go : Nat → List Char → Unescaped
    | 0, _ => ⟨[], false, false⟩
    | _ + 1, [] => ⟨[], false, false⟩
    | bound + 1, '\\' :: rest =>
      match Escape.read escapes rest with
      | .text chars rest =>
        let others := go bound rest
        { others with text := chars ++ others.text }
      | .stop => ⟨[], true, false⟩
      | .broken => ⟨[], true, true⟩
    | bound + 1, c :: rest =>
      let others := go bound rest
      { others with text := c :: others.text }

/-! ## Saying words -/

/-- Words with blanks between them, and a line end unless it is not wanted. -/
def spoken (arguments : List (List Char)) : List Char :=
  match arguments with
  | ['-', 'n'] :: words => [' '].intercalate words
  | words => [' '].intercalate words ++ ['\n']

/-- What the shell says: escapes are read, and one of them ends the output. -/
def shellSpoken (arguments : List (List Char)) : List Char :=
  (unescaped .shellSpeech (spoken arguments)).text

/-- Whether a word is an option of a program that speaks. -/
def isSpeechOption : List Char → Bool
  | '-' :: letters =>
    !letters.isEmpty && letters.all fun c => c == 'n' || c == 'e' || c == 'E'
  | _ => false

/-- What the program of its own says: escapes are read if that is asked for
after anything that says otherwise. -/
def programSpoken (arguments : List (List Char)) : List Char :=
  let options := arguments.takeWhile isSpeechOption
  let letters := options.flatMap fun option => option.drop 1
  let words := [' '].intercalate (arguments.drop options.length)
  let ending := if letters.contains 'n' then [] else ['\n']
  match letters.reverse.find? fun c => c != 'n' with
  | some 'e' =>
    let read := unescaped .programSpeech words
    if read.stopped then read.text else read.text ++ ending
  | _ => words ++ ending

end Toolbox
end CompilerRelay
