import CompilerRelay.Toolbox.FileTree

/-!
Filters: small programs that read one stream and write another.

A filter is given what is there to read and whether more may come, and says
what it writes, what it leaves unread and whether it is done.  Most filters
keep what they write until a block of it is full or until they end.
-/

namespace CompilerRelay
namespace Toolbox

/-- What a filter did. -/
structure Filtered where
  output : List Char
  rest : List Char
  done : Bool
  status : Nat := 0
  /-- It reads its stream. -/
  reads : Bool := false
  /-- What it has to say about its arguments. -/
  complaints : List (List Char) := []

/-- A program that reads lines or bytes. -/
abbrev Filter := List Char → Bool → Filtered

/-- How many bytes are written at once. -/
def blockSize : Nat := 4096

/-- What is written of an output that goes on: all blocks that are full. -/
def fullBlocks (output : List Char) : List Char :=
  output.take ((output.length - 1) / blockSize * blockSize)

def write (output : List Char) : Filter :=
  fun input _ => { output, rest := input, done := true }

def refuse (status : Nat) (complaint : List Char) : Filter :=
  fun input _ => { output := [], rest := input, done := true, status, complaints := [complaint] }

/-! ## Files to read -/

/-- What the files named by arguments give to read: texts, and the stream of the
program where it is asked for. -/
structure Sources where
  /-- What is read before the stream, and what is read behind it if it is read. -/
  before : List Char := []
  reads : Bool := false
  behind : List Char := []
  complaints : List (List Char) := []

namespace Sources

/-- The sources of one stream alone. -/
def stream : Sources :=
  { reads := true }

/-- First these sources and then others. -/
def followedBy (first second : Sources) : Sources :=
  { first with
    before := if first.reads then first.before else first.before ++ second.before
    reads := first.reads || second.reads
    behind := if first.reads then first.behind ++ second.before ++ second.behind else second.behind
    complaints := first.complaints ++ second.complaints }

/-- What one file gives; a filter has words of its own for why it gives nothing. -/
def ofFile (account : List Char → PathFault → List Char) (site : Site) (path : List Char) :
    Sources :=
  if path = ['-'] then stream
  else match site.resolve path with
    | .error fault => { complaints := [account path fault] }
    | .ok (_, .directory) => { complaints := [account path .isDirectory] }
    | .ok (_, .stream 0) => stream
    | .ok (_, .made contents) => { before := contents }
    | .ok _ => {}

/-- What several files give; without any it is the stream of the program. -/
def ofFiles (account : List Char → PathFault → List Char) (site : Site)
    (paths : List (List Char)) : Sources :=
  if paths.isEmpty then stream
  else paths.foldl (fun sources path => sources.followedBy (ofFile account site path)) {}

/-- Let a filter read the sources; it ends at once if they give nothing. -/
def feed (sources : Sources) (failure : Nat) (f : Filter) : Filter := fun input ended =>
  let done :=
    if sources.reads then f (sources.before ++ input ++ if ended then sources.behind else []) ended
    else f sources.before true
  let rest := if sources.reads then input.drop (input.length - done.rest.length) else input
  let status := if done.status = 0 ∧ !sources.complaints.isEmpty then failure else done.status
  { done with
    rest, status, reads := sources.reads, complaints := sources.complaints ++ done.complaints }

end Sources

/-! ## Copying -/

/-- How a text is copied. -/
structure CopyStyle where
  numbers : Bool := false
  /-- Only lines that hold something are numbered. -/
  numbersFilled : Bool := false
  marksEnds : Bool := false
  marksTabs : Bool := false
  showsControl : Bool := false
  /-- Of several empty lines one is copied. -/
  squeezes : Bool := false

namespace CopyStyle

/-- Add what a letter asks for. -/
def add? (style : CopyStyle) (letter : Char) : Option CopyStyle :=
  match letter with
  | 'A' => some { style with showsControl := true, marksEnds := true, marksTabs := true }
  | 'b' => some { style with numbers := true, numbersFilled := true }
  | 'e' => some { style with showsControl := true, marksEnds := true }
  | 'E' => some { style with marksEnds := true }
  | 'n' => some { style with numbers := true }
  | 's' => some { style with squeezes := true }
  | 't' => some { style with showsControl := true, marksTabs := true }
  | 'T' => some { style with marksTabs := true }
  | 'u' => some style
  | 'v' => some { style with showsControl := true }
  | _ => none

/-- The letter for the long name of an option. -/
def letter? (name : String) : Option Char :=
  ([("show-all", 'A'), ("number-nonblank", 'b'), ("show-ends", 'E'), ("number", 'n'),
    ("squeeze-blank", 's'), ("show-tabs", 'T'), ("show-nonprinting", 'v')] :
      List (String × Char)).lookup name

/-- A byte as it is shown. -/
def shown (style : CopyStyle) (c : Char) : List Char :=
  let plain (code : Nat) : List Char :=
    if code < 32 then ['^', Char.ofNat (code + 64)]
    else if code = 127 then ['^', '?'] else [Char.ofNat code]
  if c = '\t' then (if style.marksTabs then ['^', 'I'] else [c])
  else if !style.showsControl then [c]
  else if 128 ≤ c.toNat then ['M', '-'] ++ plain (c.toNat - 128)
  else plain c.toNat

/-- The number of a line, as it is written before it. -/
def label (number : Nat) : List Char :=
  let digits := Nat.toDigits 10 number
  List.replicate (6 - digits.length) ' ' ++ digits ++ ['\t']

/-- Copy a text that begins with a line, given how many lines were numbered and
how many empty lines came just before. -/
def copyLines (style : CopyStyle) : Nat → Nat → Nat → List Char → List Char
  | 0, _, _, _ => []
  | _, _, _, [] => []
  | bound + 1, numbered, empties, text =>
    let line := text.takeWhile (· != '\n')
    let rest := text.drop line.length
    let ending := if rest.isEmpty then [] else if style.marksEnds then ['$', '\n'] else ['\n']
    let after := rest.drop 1
    if line.isEmpty && style.squeezes && 0 < empties then
      copyLines style bound numbered (empties + 1) after
    else
      let counts := style.numbers && !(style.numbersFilled && line.isEmpty)
      (if counts then label (numbered + 1) else []) ++ line.flatMap style.shown ++ ending
        ++ copyLines style bound (if counts then numbered + 1 else numbered)
          (if line.isEmpty then empties + 1 else 0) after

/-- Copy all there is to read. -/
def copy (style : CopyStyle) : Filter := fun input ended =>
  { output := style.copyLines (input.length + 1) 0 0 input, rest := [], done := ended }

/-- Read the options of a copy; files are left. -/
def readOptions (style : CopyStyle) (files : List (List Char)) :
    List (List Char) → Except (List Char) (CopyStyle × List (List Char))
  | [] => .ok (style, files)
  | ['-', '-'] :: rest => .ok (style, files ++ rest)
  | ['-'] :: rest => readOptions style (files ++ [['-']]) rest
  | ('-' :: '-' :: name) :: rest =>
    match (letter? (String.ofList name)).bind style.add? with
    | some style => readOptions style files rest
    | none => .error ("unrecognized option '--".toList ++ name ++ ['\''])
  | ('-' :: letters) :: rest =>
    match letters.foldlM CopyStyle.add? style with
    | some style => readOptions style files rest
    | none => .error "invalid option".toList
  | file :: rest => readOptions style (files ++ [file]) rest

end CopyStyle

/-- Why a file cannot be copied. -/
def copyAccount (path : List Char) (fault : PathFault) : List Char :=
  path ++ ": ".toList ++ fault.message.toList

/-- Copy files, or what there is to read. -/
def copying (site : Site) (arguments : List (List Char)) : Filter :=
  match CopyStyle.readOptions {} [] arguments with
  | .error complaint => refuse 1 complaint
  | .ok (style, files) => (Sources.ofFiles copyAccount site files).feed 1 style.copy

/-! ## Selecting what comes first -/

/-- How much is selected: so many lines or bytes, or all but so many. -/
structure Extent where
  bytes : Bool := false
  allBut : Bool := false
  count : Nat := 10
  /-- The name of the file is written first. -/
  heading : Bool := false

/-- The first lines and what follows them; says whether they are complete. -/
def cutFirstLines : Nat → List Char → List Char × List Char × Bool
  | 0, text => ([], text, true)
  | count + 1, text =>
    match cutLine text with
    | none => (text, [], false)
    | some (line, rest) =>
      let others := cutFirstLines count rest
      (line ++ '\n' :: others.1, others.2)

/-- How many lines a text has, where the last one may lack its end. -/
def lineTotal (text : List Char) : Nat :=
  let lines := cutLines text
  lines.1.length + (if lines.2.isEmpty then 0 else 1)

namespace Extent

/-- Select from what there is to read. -/
def select (extent : Extent) : Filter := fun input ended =>
  let finish (output rest : List Char) (complete : Bool) : Filtered :=
    if complete || ended then { output, rest, done := true }
    else { output := fullBlocks output, rest, done := false }
  if extent.allBut then
    if ended then
      let kept := if extent.bytes then input.take (input.length - extent.count)
        else (cutFirstLines (lineTotal input - extent.count) input).1
      finish kept [] true
    else { output := [], rest := [], done := false }
  else if extent.bytes then
    finish (input.take extent.count) (input.drop extent.count) (extent.count ≤ input.length)
  else
    let cut := cutFirstLines extent.count input
    finish cut.1 cut.2.1 cut.2.2

/-- Select with the name of the file before it. -/
def selectUnderHeading (extent : Extent) : Filter := fun input ended =>
  let selected := extent.select input ended
  if !extent.heading then selected
  else if selected.done then
    { selected with output := "==> standard input <==\n".toList ++ selected.output }
  else { selected with output := [] }

/-- Set the count, which is counted from the end behind a hyphen. -/
def setCount? (extent : Extent) (bytes : Bool) (text : List Char) : Option Extent :=
  match text with
  | '-' :: digits => (number? digits).map fun count => { extent with bytes, allBut := true, count }
  | '+' :: digits => (number? digits).map fun count => { extent with bytes, allBut := false, count }
  | digits => (number? digits).map fun count => { extent with bytes, allBut := false, count }

/-- Read the options of a selection; files are left. -/
def readOptions (extent : Extent) (files : List (List Char)) :
    List (List Char) → Option (Extent × List (List Char))
  | [] => some (extent, files)
  | ['-', '-'] :: rest => some (extent, files ++ rest)
  | ['-'] :: rest => readOptions extent (files ++ [['-']]) rest
  | ['-', 'n'] :: count :: rest => do readOptions (← extent.setCount? false count) files rest
  | ['-', 'c'] :: count :: rest => do readOptions (← extent.setCount? true count) files rest
  | ['-', 'q'] :: rest => readOptions { extent with heading := false } files rest
  | ['-', 'v'] :: rest => readOptions { extent with heading := true } files rest
  | ('-' :: 'n' :: count) :: rest => do
    readOptions (← extent.setCount? false count) files rest
  | ('-' :: 'c' :: count) :: rest => do
    readOptions (← extent.setCount? true count) files rest
  | ('-' :: '-' :: name) :: rest => do
    let key := String.ofList (name.takeWhile (· != '='))
    let value := name.drop (key.length + 1)
    if key = "lines" then readOptions (← extent.setCount? false value) files rest
    else if key = "bytes" then readOptions (← extent.setCount? true value) files rest
    else if key = "quiet" ∨ key = "silent" then
      readOptions { extent with heading := false } files rest
    else if key = "verbose" then readOptions { extent with heading := true } files rest
    else none
  | ('-' :: count) :: rest => do
    readOptions { extent with count := ← number? count } files rest
  | file :: rest => readOptions extent (files ++ [file]) rest

end Extent

/-- Why nothing can be selected from a file. -/
def selectAccount (path : List Char) (fault : PathFault) : List Char :=
  let quoted := '\'' :: path ++ ['\'']
  (if fault = .isDirectory then "error reading ".toList ++ quoted
    else "cannot open ".toList ++ quoted ++ " for reading".toList)
    ++ ": ".toList ++ fault.message.toList

/-- Copy the first lines or bytes. -/
def selecting (site : Site) (arguments : List (List Char)) : Filter :=
  match Extent.readOptions {} [] arguments with
  | none => refuse 1 "invalid option".toList
  | some (extent, files) => (Sources.ofFiles selectAccount site files).feed 1 extent.selectUnderHeading

end Toolbox
end CompilerRelay
