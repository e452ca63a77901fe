/-!
Commands of the shell.

A word is a row of pieces: text, the values of parameters, the output of
commands and the values of sums.  What is between quotes is marked, since it is
not cut into fields and means nothing in a pattern.
-/

namespace CompilerRelay
namespace Toolbox
namespace Shell

/-- What is done with the value of a parameter. -/
inductive Operation where
  | value
  | length
  /-- Another word where there is no value, also for an empty one if asked. -/
  | orElse (alsoEmpty : Bool)
  /-- The same, and the parameter gets that value. -/
  | orAssign (alsoEmpty : Bool)
  /-- An end of the script where there is no value. -/
  | orFail (alsoEmpty : Bool)
  /-- Another word where there is a value. -/
  | instead (alsoEmpty : Bool)
  /-- Take away what matches a pattern at one end. -/
  | strip (fromStart longest : Bool)
  /-- Something that cannot be done. -/
  | unknown
  deriving DecidableEq, Repr

/-- What is done with a stream. -/
inductive Direction where
  | read
  | write
  | append
  | readAndWrite
  /-- It becomes the same as another stream, or none. -/
  | same
  /-- It gives a text that stands in the script. -/
  | document
  deriving DecidableEq, Repr

mutual

/-- A part of a word. -/
inductive Piece where
  | text (chars : List Char) (quoted : Bool)
  | parameter (name : List Char) (operation : Operation) (operand : List Piece) (quoted : Bool)
  | output (command : Command) (quoted : Bool)
  | sum (expression : List Piece) (quoted : Bool)

/-- Where a stream leads while a command is carried out. -/
inductive Redirect where
  | mk (stream : Nat) (direction : Direction) (target : List Piece)

/-- A command. -/
inductive Command where
  | nothing
  /-- Assignments, words and redirections, with the line they stand on. -/
  | simple (line : Nat) (assignments : List (List Char × List Piece)) (words : List (List Piece))
      (redirects : List Redirect)
  | pipe (left right : Command)
  | sequence (first second : Command)
  | whenOk (first second : Command)
  | whenFailed (first second : Command)
  | negated (command : Command)
  | background (command : Command)
  /-- A body that is repeated while a condition holds, or until it does. -/
  | loop (condition body : Command) (untilHolds : Bool)
  | branch (condition consequence alternative : Command)
  /-- A body for each of several words, or for each argument. -/
  | each (line : Nat) (name : List Char) (words : Option (List (List Piece))) (body : Command)
  | select (line : Nat) (word : List Piece) (arms : List (List (List Piece) × Command))
  | redirected (line : Nat) (body : Command) (redirects : List Redirect)
  | subshell (body : Command)
  | function (name : List Char) (body : Command)

end

instance : Inhabited Command :=
  ⟨.nothing⟩

/-- A word before it is expanded. -/
abbrev Word := List Piece

def Piece.isQuoted : Piece → Bool
  | .text _ quoted => quoted
  | .parameter _ _ _ quoted => quoted
  | .output _ quoted => quoted
  | .sum _ quoted => quoted

def plainText (word : Word) : List Char :=
  word.flatMap fun
    | .text chars _ => chars
    | _ => []

def isNameStart (c : Char) : Bool :=
  c.isAlpha || c == '_'

def isNameChar (c : Char) : Bool :=
  c.isAlphanum || c == '_'

/-- The words that mean something of their own where a command begins. -/
def reservedWords : List String :=
  ["!", "case", "do", "done", "elif", "else", "esac", "fi", "for", "if", "in", "then", "until",
    "while", "\x7b", "\x7d"]

def isName (text : List Char) : Bool :=
  (text.head?.map isNameStart).getD false && text.all isNameChar

end Shell
end Toolbox
end CompilerRelay
