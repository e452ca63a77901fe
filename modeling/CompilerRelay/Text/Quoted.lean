import CompilerRelay.Text.Unprintable

/-!
Quoted text, as error messages show it.

A text stands between double quotes.  The quote and the backslash are escaped,
line feed, carriage return, tab and the null character have letters of their
own, and any other character without a printable form is written by its code
point in lower-case hexadecimal.
-/

namespace CompilerRelay
namespace Text

/-- Hexadecimal digits of a number, lower case, without leading zeros. -/
def hexDigits (n : Nat) : List Char :=
  Nat.toDigits 16 n

/-- How one character appears between quotes. -/
def quotedChar (c : Char) : List Char :=
  match c with
  | '"' => ['\\', '"']
  | '\\' => ['\\', '\\']
  | '\n' => ['\\', 'n']
  | '\r' => ['\\', 'r']
  | '\t' => ['\\', 't']
  | '\x00' => ['\\', '0']
  | c => if isUnprintable c then ['\\', 'u', '\x7b'] ++ hexDigits c.toNat ++ ['\x7d'] else [c]

def quoted (text : String) : String :=
  String.ofList ('"' :: text.toList.flatMap quotedChar ++ ['"'])

end Text
end CompilerRelay
