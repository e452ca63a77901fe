import CompilerRelay.Uri.Host
import CompilerRelay.Text.Quoted

/-!
URIs in normal form.

Reading a URI puts it into normal form: the scheme and the host in lower case,
a default port left out, dot segments resolved and reserved characters
escaped.  Two URIs are the same when their normal forms are, which is all that
a `Uri` holds.
-/

namespace CompilerRelay

/-- A URI, by the text of its normal form. -/
structure Uri where
  text : String
  deriving DecidableEq, Repr, Inhabited

namespace Uri

/-- How the rules differ between schemes. -/
inductive Kind where
  | file
  /-- A scheme with hosts of the network, and its default port. -/
  | special (defaultPort : Nat)
  | other
  deriving DecidableEq

namespace Kind

def ofScheme (scheme : List Char) : Kind :=
  match String.ofList scheme with
  | "file" => file
  | "http" => special 80
  | "https" => special 443
  | "ws" => special 80
  | "wss" => special 443
  | "ftp" => special 21
  | _ => other

def isSpecial : Kind → Bool
  | other => false
  | _ => true

/-- Whether a character separates the segments of a path. -/
def isSlash (kind : Kind) (c : Char) : Bool :=
  c == '/' || (kind.isSpecial && c == '\\')

/-- Whether a character ends the part before the path. -/
def endsAuthority (kind : Kind) (c : Char) : Bool :=
  kind.isSlash c || c == '?' || c == '#'

end Kind

/-- Cut a scheme and its colon from the front of a text. -/
def scheme? (text : List Char) : Option (List Char × List Char) :=
  match text with
  | [] => none
  | first :: _ =>
    let name := text.takeWhile fun c =>
      isAsciiLetter c || isAsciiDigit c || c == '+' || c == '-' || c == '.'
    match text.drop name.length with
    | ':' :: rest => if isAsciiLetter first then some (name.map Char.toLower, rest) else none
    | _ => none

/-- A letter and a colon, or a bar that stands for the colon. -/
def isDriveLetter (segment : List Char) : Bool :=
  match segment with
  | [letter, mark] => isAsciiLetter letter && (mark == ':' || mark == '|')
  | _ => false

/-- Whether a character is left out of a URI wherever it stands. -/
def isBreak (c : Char) : Bool :=
  c == '\t' || c == '\n' || c == '\r'

/-- The characters of a text that count. -/
def visible (text : List Char) : List Char :=
  text.filter fun c => !isBreak c

/-- What follows the first so many characters that count. -/
def dropVisible : Nat → List Char → List Char
  | 0, text => text
  | _, [] => []
  | count + 1, c :: rest =>
    if isBreak c then dropVisible (count + 1) rest else dropVisible count rest

/-- A drive letter with its colon and what is left of its segment, where a tab
or a line end stands between them. -/
def brokenDrive? (raw : List Char) : Option (List Char × List Char) :=
  let drive := (visible raw).take 2
  let behind := dropVisible 2 raw
  let rest := visible behind
  if isDriveLetter drive ∧ drive.getLast? = some ':' ∧ behind.head?.any isBreak ∧ !rest.isEmpty then
    some (drive, rest)
  else none

/-- A segment with the escapes of the dot read. -/
def dotted : List Char → List Char
  | '%' :: '2' :: 'e' :: rest => '.' :: dotted rest
  | '%' :: '2' :: 'E' :: rest => '.' :: dotted rest
  | c :: rest => c :: dotted rest
  | [] => []

/-- Take the last segment from a path that ends in a slash.  The root stays,
and so does a drive letter. -/
def parent (path : List Char) : List Char :=
  let stem := path.dropLast
  let last := (stem.reverse.takeWhile (· != '/')).reverse
  if !stem.contains '/' || isDriveLetter last then path
  else stem.take (stem.length - last.length)

/-- A path under construction, and whether a drive letter has taken the place
of the host. -/
structure PathState where
  path : List Char
  dropsHost : Bool

/-- Add a segment, which a slash may follow, to a path. -/
def PathState.addSegment (kind : Kind) (state : PathState) (text : List Char) (slash : Bool) :
    PathState :=
  let segment := Percent.encode Percent.inPath text
  let ending := if slash then ['/'] else []
  let plain := dotted segment
  if plain = ['.', '.'] then { state with path := parent state.path }
  else if plain = ['.'] then state
  else if kind = .file ∧ state.path = ['/'] ∧ isDriveLetter segment then
    ⟨state.path ++ segment.take 1 ++ [':'] ++ ending, true⟩
  else { state with path := state.path ++ segment ++ ending }

/-- Add a segment as it is written.  A break behind the drive letter that the
path of a file begins with makes the letter a segment of its own. -/
def PathState.add (kind : Kind) (state : PathState) (raw : List Char) (slash : Bool) : PathState :=
  match if kind = .file ∧ state.path = ['/'] then brokenDrive? raw else none with
  | some (drive, rest) =>
    let ending := if slash then ['/'] else []
    { state with path := state.path ++ drive ++ '/' :: Percent.encode Percent.inPath rest ++ ending }
  | none => state.addSegment kind (visible raw) slash

/-- Add segments; each but the last is followed by a slash. -/
def PathState.addAll (kind : Kind) : PathState → List (List Char) → PathState
  | state, [] => state
  | state, [last] => state.add kind last false
  | state, segment :: rest => addAll kind (state.add kind segment true) rest

/-- Add the segments of a text to the start of a path. -/
def resolvePath (kind : Kind) (start text : List Char) : PathState :=
  let state := PathState.addAll kind ⟨start, false⟩ (splitAt kind.isSlash text)
  if kind = .file then { state with path := '/' :: state.path.dropWhile (· == '/') } else state

/-- Cut a text before its query or its fragment. -/
def cutTail (text : List Char) : List Char × List Char :=
  let head := text.takeWhile fun c => c != '?' && c != '#'
  (head, text.drop head.length)

/-- The query and the fragment, with their marks. -/
def tailText (kind : Kind) (tail : List Char) : List Char :=
  match tail with
  | '?' :: rest =>
    let query := rest.takeWhile (· != '#')
    '?' :: Percent.encode (Percent.inQuery kind.isSpecial) query
      ++ fragment (rest.drop query.length)
  | rest => fragment rest
where
  fragment : List Char → List Char
    | '#' :: rest => '#' :: Percent.encode Percent.inFragment rest
    | _ => []

/-- A user name and a password, with the sign after them. -/
def userinfoText (text : List Char) : List Char :=
  let name := text.takeWhile (· != ':')
  let password := (text.drop name.length).drop 1
  let escaped := Percent.encode Percent.inUserinfo
  let body := escaped name ++ (if password.isEmpty then [] else ':' :: escaped password)
  if body.isEmpty then [] else body ++ ['@']

/-- The user information before a host, and what follows it. -/
def userinfo (kind : Kind) (text : List Char) : Except Fault (List Char × List Char) :=
  let head := text.takeWhile fun c => !kind.endsAuthority c
  let host := (head.reverse.takeWhile (· != '@')).reverse
  if !head.contains '@' then .ok ([], text)
  else
    let before := head.take (head.length - host.length - 1)
    let rest := text.drop (before.length + 1)
    if before.isEmpty ∧ host.isEmpty ∧ !rest.isEmpty then .error .emptyHost
    else .ok (userinfoText before, rest)

/-- The length of a host: up to a colon outside brackets or the path. -/
def hostLength (kind : Kind) (inside : Bool) : List Char → Nat
  | [] => 0
  | c :: rest =>
    if (c == ':' && !inside) || kind.endsAuthority c then 0
    else hostLength kind (if c = '[' then true else if c = ']' then false else inside) rest + 1

/-- The port after a colon, without the default one, and what follows it. -/
def port (kind : Kind) (text : List Char) : Except Fault (List Char × List Char) :=
  let digits := text.takeWhile isAsciiDigit
  let rest := text.drop digits.length
  let number := (Host.numeral? 10 digits).getD 0
  let ends := match rest with
    | [] => true
    | c :: _ => c == '/' || c == '\\' || c == '?' || c == '#'
  if 65535 < number ∨ !ends then .error .invalidPort
  else if digits.isEmpty ∨ kind = .special number then .ok ([], rest)
  else .ok (':' :: Nat.toDigits 10 number, rest)

/-- The path of a URI that has a host, from its first slash on. -/
def pathAfterHost (kind : Kind) (text : List Char) : PathState :=
  if kind.isSpecial then
    let rest := if (text.head?.map kind.isSlash).getD false then text.drop 1 else text
    resolvePath kind ['/'] rest
  else if text.isEmpty then ⟨[], false⟩
  else if text.head? = some '/' then resolvePath kind [] text
  else resolvePath kind ['/'] text

/-- What follows two slashes: user, host and port, then path and tail. -/
def withAuthority (kind : Kind) (text : List Char) : Except Fault (List Char) := do
  let (user, rest) ← userinfo kind text
  let hostText := rest.take (hostLength kind false rest)
  let after := rest.drop hostText.length
  if kind.isSpecial && hostText.isEmpty then throw .emptyHost
  let host ← if kind.isSpecial then Host.special hostText else Host.opaqueHost hostText
  if host.isEmpty && (after.head? == some ':' || !user.isEmpty) then throw .emptyHost
  let (portText, after) ← match after with
    | ':' :: more => port kind more
    | more => pure ([], more)
  let (path, tail) := cutTail after
  return '/' :: '/' :: user ++ host ++ portText ++ (pathAfterHost kind path).path
    ++ tailText kind tail

/-- What follows the scheme of a file: an optional host, then path and tail.
The text is given as it is written, with its breaks. -/
def ofFile (text : List Char) : Except Fault (List Char) := do
  let kind := Kind.file
  let head := (cutTail text).1
  let tail := visible (cutTail text).2
  let slashes := ((visible head).take 2).takeWhile kind.isSlash
  let slashed := ['/', '/']
  match slashes.length with
  | 2 =>
    let rest := dropVisible 2 head
    let written := rest.takeWhile fun c => !kind.isSlash c
    let hostText := visible written
    if hostText.isEmpty || isDriveLetter hostText then
      return slashed ++ (resolvePath kind ['/'] rest).path ++ tailText kind tail
    else
      let host ← Host.special hostText
      let after := rest.drop written.length
      if host = ['l', 'o', 'c', 'a', 'l', 'h', 'o', 's', 't'] then
        return slashed ++ (resolvePath kind ['/'] after).path ++ tailText kind tail
      else
        let state := pathAfterHost kind after
        return slashed ++ (if state.dropsHost then [] else host) ++ state.path
          ++ tailText kind tail
  | 1 => return slashed ++ (resolvePath kind [] head).path ++ tailText kind tail
  | _ => return slashed ++ (resolvePath kind ['/'] head).path ++ tailText kind tail

/-- What follows the scheme of a URI without a host.  A path that would read
as a host is set off by a dot segment. -/
def withoutAuthority (text : List Char) : List Char :=
  let (head, tail) := cutTail text
  let path := match head with
    | '/' :: rest => (resolvePath .other ['/'] rest).path
    | opaquePath => Percent.encode Percent.isControl opaquePath
  let guard := match path with
    | '/' :: '/' :: _ => ['/', '.']
    | _ => []
  guard ++ path ++ tailText .other tail

def trimmed (text : List Char) : List Char :=
  let blank (c : Char) : Bool := c.toNat ≤ 0x20
  ((text.dropWhile blank).reverse.dropWhile blank).reverse

def normalize (text : List Char) : Except Fault (List Char) :=
  let written := trimmed text
  match scheme? (visible written) with
  | none => .error .relativeWithoutBase
  | some (scheme, rest) => do
    let kind := Kind.ofScheme scheme
    let body ← match kind, rest with
      | .file, _ => ofFile ((written.dropWhile (· != ':')).drop 1)
      | .special _, rest => withAuthority kind (rest.dropWhile kind.isSlash)
      | .other, '/' :: '/' :: more => withAuthority kind more
      | .other, rest => pure (withoutAuthority rest)
    return scheme ++ ':' :: body

def parse (text : String) : Except Fault Uri :=
  (normalize text.toList).map fun normal => ⟨String.ofList normal⟩

end Uri
end CompilerRelay
