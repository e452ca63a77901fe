import CompilerRelay.Toolbox.Shell.State

/-!
Options: those of the shell itself, and those that scripts read from their
arguments.
-/

namespace CompilerRelay
namespace Toolbox
namespace Shell

/-! ## Options of the shell -/

/-- The names of options with their letters. -/
def optionNames : List (String × Char) :=
  [("errexit", 'e'), ("noglob", 'f'), ("ignoreeof", 'I'), ("interactive", 'i'), ("monitor", 'm'),
    ("noexec", 'n'), ("stdin", 's'), ("xtrace", 'x'), ("verbose", 'v'), ("vi", 'V'),
    ("emacs", 'E'), ("noclobber", 'C'), ("allexport", 'a'), ("notify", 'b'), ("nounset", 'u')]

/-- Options and the arguments behind them. -/
structure OptionSetting where
  letters : List Char
  arguments : List (List Char)
  /-- The arguments take the place of others even if there are none. -/
  replaces : Bool
  /-- A letter that is no option of the shell itself. -/
  extra : Option Char := none

/-- Set or clear an option; the extra ones are only noted. -/
def setOption (extras : List Char) (sets : Bool) (o : OptionSetting) (letter : Char) :
    Except (List Char) OptionSetting :=
  if extras.contains letter then .ok { o with extra := some letter }
  else if optionNames.any (·.2 == letter) then
    let others := o.letters.filter (· != letter)
    .ok { o with letters := if sets then letter :: others else others }
  else .error ("Illegal option -".toList ++ [letter])

/-- Read options at the front of arguments; a letter or a name that there is not is
the mistake. -/
def readOptions (extras : List Char) (o : OptionSetting) :
    List (List Char) → Except (List Char) OptionSetting
  | [] => .ok { o with arguments := [] }
  | [['-', 'o']] => .ok { o with arguments := [] }
  | ['-', '-'] :: rest => .ok { o with arguments := rest, replaces := true }
  | ['-'] :: rest => .ok { o with arguments := rest, replaces := !rest.isEmpty }
  | ['-', 'o'] :: name :: rest => named true name rest
  | ['+', 'o'] :: name :: rest => named false name rest
  | (mark :: letter :: letters) :: rest =>
    if mark = '-' ∨ mark = '+' then
      match (letter :: letters).foldlM (setOption extras (mark = '-')) o with
      | .error complaint => .error complaint
      | .ok o => readOptions extras o rest
    else .ok { o with arguments := (mark :: letter :: letters) :: rest, replaces := true }
  | first :: rest => .ok { o with arguments := first :: rest, replaces := true }
where
  named (sets : Bool) (name : List Char) (rest : List (List Char)) :
      Except (List Char) OptionSetting :=
    match (optionNames.lookup (String.ofList name)).map (setOption extras sets o) with
    | some (.ok o) => readOptions extras o rest
    | _ => .error ("Illegal option ".toList ++ (if sets then '-' else '+') :: 'o' :: ' ' :: name)

def setOptions (arguments : List (List Char)) : Act Unit := do
  let s ← get
  match readOptions [] ⟨s.options, [], false, none⟩ arguments with
  | .error complaint => fail complaint
  | .ok o => do
    set { s with
      options := o.letters
      arguments := if o.replaces then o.arguments else s.arguments
      optionIndex := if o.replaces then 1 else s.optionIndex
      optionOffset := if o.replaces then none else s.optionOffset }
    succeed

/-! ## Options of a script -/

/-- An option that was read from arguments. -/
structure OptionRead where
  letter : Char
  argument : Option (List Char)
  /-- The argument from which the next option is read, counted from one, and how
  much of the one before it was read. -/
  index : Nat
  offset : Option Nat
  complaint : List Char := []
  atEnd : Bool := false

/-- How an option is described: whether it is, and whether it takes an argument. -/
def describedOption (letter : Char) : List Char → Option Bool
  | [] => none
  | c :: ':' :: rest => if c = letter then some true else describedOption letter rest
  | c :: rest => if c = letter then some false else describedOption letter rest

/-- Read the next option from arguments. -/
def nextOption (description : List Char) (arguments : List (List Char)) (index : Nat)
    (offset : Option Nat) : OptionRead :=
  let inWord := match offset with
    | some offset => if index ≤ 1 then [] else ((arguments[index - 2]?).getD []).drop offset
    | none => []
  let started : Option (List Char × Nat) :=
    if !inWord.isEmpty then some (inWord, index)
    else match arguments[index - 1]? with
      | some ('-' :: letter :: letters) => some (letter :: letters, index + 1)
      | _ => none
  match started with
  | none => { letter := '?', argument := none, index, offset := none, atEnd := true }
  | some (['-'], index) =>
    if inWord.isEmpty then
      { letter := '?', argument := none, index, offset := none, atEnd := true }
    else read ['-'] index
  | some (text, index) => read text index
where
  read (text : List Char) (index : Nat) : OptionRead :=
    let quiet := description.head? == some ':'
    let letter := text.head?.getD '?'
    let rest := text.drop 1
    let offset := if rest.isEmpty then none
      else some (((arguments[index - 2]?).getD []).length - rest.length)
    let about (before behind : String) : List Char :=
      if quiet then [] else before.toList ++ letter :: behind.toList
    match describedOption letter description with
    | none =>
      { letter := '?', argument := if quiet then some [letter] else none, index, offset
        complaint := about "Illegal option -" "" }
    | some false => { letter, argument := some [], index, offset }
    | some true =>
      if !rest.isEmpty then { letter, argument := some rest, index, offset := none }
      else match arguments[index - 1]? with
        | some argument => { letter, argument := some argument, index := index + 1, offset := none }
        | none =>
          { letter := if quiet then ':' else '?', argument := if quiet then some [letter] else none
            index, offset := none, complaint := about "No arg for -" " option" }

/-- Read the next option of a script into a variable. -/
def readOption (description name : List Char) (arguments : List (List Char)) : Act Unit := do
  let s ← get
  let within := s.optionIndex ≤ arguments.length + 1
  let read := nextOption description arguments (if within then s.optionIndex else 1)
    (if within then s.optionOffset else none)
  unless read.complaint.isEmpty do say read.complaint
  unless read.atEnd do
    match read.argument with
    | some argument => assign "OPTARG".toList argument
    | none => modify fun s => s.withBinding "OPTARG".toList none
  assign "OPTIND".toList (Nat.toDigits 10 read.index)
  assign name [read.letter]
  modify fun s => { s with optionIndex := read.index, optionOffset := read.offset }
  finish (if read.atEnd then 1 else 0)

end Shell
end Toolbox
end CompilerRelay
