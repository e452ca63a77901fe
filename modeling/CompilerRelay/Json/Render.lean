import CompilerRelay.Json.Value
import CompilerRelay.Number.Shortest
import CompilerRelay.Text.Quoted

/-!
Writing JSON values as one line of text.

There is no blank outside strings.  Inside strings the quote, the backslash and
the controls below the space are escaped, five of them by a letter and the rest
by four hexadecimal digits; every other character stands for itself.  A written
value therefore holds no line feed.
-/

namespace CompilerRelay
namespace Json

/-- The two escaped hexadecimal digits of a character below the space. -/
def controlEscape (c : Char) : List Char :=
  let digits := Text.hexDigits c.toNat
  ['\\', 'u', '0', '0'] ++ List.replicate (2 - digits.length) '0' ++ digits

/-- How one character is written inside a string. -/
def escapedChar (c : Char) : List Char :=
  match c with
  | '"' => ['\\', '"']
  | '\\' => ['\\', '\\']
  | '\n' => ['\\', 'n']
  | '\r' => ['\\', 'r']
  | '\t' => ['\\', 't']
  | '\x08' => ['\\', 'b']
  | '\x0c' => ['\\', 'f']
  | c => if c.toNat < 0x20 then controlEscape c else [c]

def stringText (s : String) : List Char :=
  '"' :: s.toList.flatMap escapedChar ++ ['"']

def intText : Int → List Char
  | .ofNat n => Nat.toDigits 10 n
  | .negSucc n => '-' :: Nat.toDigits 10 (n + 1)

/-- Numbers have no exponent from `1e-5` up to below `1e16`. -/
def floatLayout : FloatLayout :=
  ⟨-5, 16⟩

mutual

def text : Json → List Char
  | null => ['n', 'u', 'l', 'l']
  | bool true => ['t', 'r', 'u', 'e']
  | bool false => ['f', 'a', 'l', 's', 'e']
  | int value => intText value
  | float value => floatLayout.render value
  | str value => stringText value
  | arr items => '[' :: itemsText items ++ [']']
  | obj members => '\x7b' :: membersText members ++ ['\x7d']

/-- The items of an array, with commas between them. -/
def itemsText : List Json → List Char
  | [] => []
  | item :: rest => text item ++ furtherItemsText rest

/-- The items after the first, each behind a comma. -/
def furtherItemsText : List Json → List Char
  | [] => []
  | item :: rest => ',' :: text item ++ furtherItemsText rest

/-- The members of an object, with commas between them. -/
def membersText : List (String × Json) → List Char
  | [] => []
  | (name, value) :: rest => stringText name ++ ':' :: text value ++ furtherMembersText rest

/-- The members after the first, each behind a comma. -/
def furtherMembersText : List (String × Json) → List Char
  | [] => []
  | (name, value) :: rest =>
    ',' :: stringText name ++ ':' :: text value ++ furtherMembersText rest

end

/-- A value as a line of text. -/
def render (value : Json) : String :=
  String.ofList (text value)

end Json
end CompilerRelay
