import CompilerRelay.Uri.Basic

/-!
Paths of the file system, and the ones that URIs name.

A path is a text, or bytes where it is not UTF-8.  A URI names a path when it
has no host and its own path begins with a slash; the escapes of each segment
are read as bytes.
-/

namespace CompilerRelay

/-- A path of the file system. -/
inductive Path where
  | text (text : String)
  /-- A path whose bytes are not UTF-8. -/
  | bytes (bytes : List UInt8)
  deriving DecidableEq, Repr

namespace Path

def ofBytes (bytes : List UInt8) : Path :=
  match Text.Utf8.decode? bytes with
  | some decoded => text (String.ofList decoded)
  | none => .bytes bytes

def text? : Path → Option String
  | text value => some value
  | bytes _ => none

end Path

namespace Uri

/-- The text after the scheme and its colon, without query and fragment. -/
def hierarchy (uri : Uri) : List Char :=
  (cutTail ((uri.text.toList.dropWhile (· != ':')).drop 1)).1

/-- A host without the port after it, whose colon stands outside brackets. -/
def withoutPort (authority : List Char) : List Char :=
  if authority.getLast? = some ']' then authority
  else
    let port := authority.reverse.takeWhile (· != ':')
    if port.length = authority.length then authority
    else authority.take (authority.length - port.length - 1)

/-- The host, if there is one, and the path. -/
def hostAndPath (uri : Uri) : Option (List Char) × List Char :=
  match uri.hierarchy with
  | '/' :: '/' :: rest =>
    let authority := rest.takeWhile (· != '/')
    let host := withoutPort (authority.reverse.takeWhile (· != '@')).reverse
    (if host.isEmpty then none else some host, rest.drop authority.length)
  | '/' :: '.' :: '/' :: '/' :: rest => (none, '/' :: '/' :: rest)
  | path => (none, path)

/-- A path that ends in a drive letter is a directory. -/
def closeDrive (path : List UInt8) : List UInt8 :=
  match path.reverse with
  | mark :: letter :: _ :: _ =>
    if isAsciiLetter (Char.ofNat letter.toNat) ∧ (mark.toNat = 0x3A ∨ mark.toNat = 0x7C) then
      path ++ [0x2F]
    else path
  | _ => path

/-- The path of the file system that a URI names. -/
def filePath? (uri : Uri) : Option Path :=
  match uri.hostAndPath with
  | (host, '/' :: rest) =>
    if host = none ∨ host = some ['l', 'o', 'c', 'a', 'l', 'h', 'o', 's', 't'] then
      some (Path.ofBytes (closeDrive (Percent.decode (Text.Utf8.encode ('/' :: rest)))))
    else none
  | _ => none

end Uri
end CompilerRelay
