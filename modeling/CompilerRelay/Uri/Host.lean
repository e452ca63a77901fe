import CompilerRelay.Uri.Domain
import CompilerRelay.Uri.Percent

/-!
Hosts of URIs.

A special scheme has a domain, an address of four bytes or an address of eight
groups in brackets.  Any other scheme has an opaque host or an address in
brackets.
-/

namespace CompilerRelay
namespace Uri

/-- Why a text is no URI. -/
inductive Fault where
  | relativeWithoutBase
  | emptyHost
  | invalidPort
  | invalidIpv4
  | invalidIpv6
  | invalidDomain
  | invalidDomainCharacter
  deriving DecidableEq, Repr

namespace Fault

def message : Fault → String
  | relativeWithoutBase => "relative URL without a base"
  | emptyHost => "empty host"
  | invalidPort => "invalid port number"
  | invalidIpv4 => "invalid IPv4 address"
  | invalidIpv6 => "invalid IPv6 address"
  | invalidDomain => "invalid international domain name"
  | invalidDomainCharacter => "invalid domain character"

end Fault

def isAsciiLetter (c : Char) : Bool :=
  ('a' ≤ c && c ≤ 'z') || ('A' ≤ c && c ≤ 'Z')

def isAsciiDigit (c : Char) : Bool :=
  '0' ≤ c && c ≤ '9'

def hexValue? (c : Char) : Option Nat :=
  if isAsciiDigit c then some (c.toNat - '0'.toNat)
  else if 'a' ≤ c ∧ c ≤ 'f' then some (c.toNat - 'a'.toNat + 10)
  else if 'A' ≤ c ∧ c ≤ 'F' then some (c.toNat - 'A'.toNat + 10)
  else none

namespace Host

/-- A number in a base, if every character is a digit of it. -/
def numeral? (base : Nat) (digits : List Char) : Option Nat :=
  digits.foldlM (fun number c => do
    let value ← hexValue? c
    if value < base then some (number * base + value) else none) 0

/-- One part of an address of four bytes: decimal, octal after a zero, or
hexadecimal after `0x`. -/
def ipv4Part? (part : List Char) : Option Nat :=
  match part with
  | [] => none
  | '0' :: 'x' :: digits => numeral? 16 digits
  | '0' :: 'X' :: digits => numeral? 16 digits
  | '0' :: digit :: digits => numeral? 8 (digit :: digits)
  | digits => numeral? 10 digits

/-- The parts of a domain, without the empty one after a last dot. -/
def partsOf (domain : List Char) : List (List Char) :=
  let parts := splitAt (· == '.') domain
  if parts.getLast? = some [] then parts.dropLast else parts

/-- Whether a domain has to be an address of four bytes. -/
def endsInNumber (domain : List Char) : Bool :=
  match (partsOf domain).getLast? with
  | none => false
  | some [] => false
  | some last => last.all isAsciiDigit || (ipv4Part? last).isSome

/-- The number that an address of four bytes stands for. -/
def ipv4? (domain : List Char) : Option Nat := do
  let numbers ← (partsOf domain).mapM ipv4Part?
  let last ← numbers.getLast?
  let leading := numbers.dropLast
  if 4 < numbers.length ∨ leading.any (255 < ·) then none
  else if Nat.pow 256 (4 - leading.length) ≤ last then none
  else some (leading.foldl (fun sum n => sum * 256 + n) 0 * Nat.pow 256 (4 - leading.length) + last)
def ipv4Text (address : Nat) : List Char :=
  let byte (power : Nat) := Nat.toDigits 10 (address / Nat.pow 256 power % 256)
  byte 3 ++ '.' :: byte 2 ++ '.' :: byte 1 ++ '.' :: byte 0

/-- A group of an address in brackets: at most four hexadecimal digits. -/
def group? (digits : List Char) : Option Nat :=
  if digits.length < 1 ∨ 4 < digits.length then none else numeral? 16 digits

/-- A byte of the dotted tail of an address in brackets. -/
def dottedByte? (digits : List Char) : Option Nat :=
  match digits with
  | ['0'] => some 0
  | '0' :: _ => none
  | [] => none
  | digits => (numeral? 10 digits).filter (· < 256)

/-- The groups that one side of an address gives; its last part may be dotted. -/
def groups? : List (List Char) → Option (List Nat)
  | [] => some []
  | [last] =>
    if last.contains '.' then
      match (splitAt (· == '.') last).mapM dottedByte? with
      | some [a, b, c, d] => some [a * 256 + b, c * 256 + d]
      | _ => none
    else (group? last).map ([·])
  | part :: rest => do
    let first ← group? part
    let others ← groups? rest
    return first :: others

/-- One side of an address, which may be empty. -/
def side? (text : List Char) : Option (List Nat) :=
  if text.isEmpty then some [] else groups? (splitAt (· == ':') text)

/-- Cut at the first pair of colons. -/
def cutAtPair : List Char → List Char × Option (List Char)
  | [] => ([], none)
  | ':' :: ':' :: rest => ([], some rest)
  | c :: rest =>
    let cut := cutAtPair rest
    (c :: cut.1, cut.2)

/-- The eight groups of an address in brackets. -/
def ipv6? (text : List Char) : Option (List Nat) := do
  match cutAtPair text with
  | (whole, none) =>
    let groups ← side? whole
    if groups.length = 8 then some groups else none
  | (before, some after) =>
    let front ← side? before
    let back ← side? after
    if before.contains '.' ∨ 7 < front.length + back.length then none
    else some (front ++ List.replicate (8 - front.length - back.length) 0 ++ back)

/-- The first of the longest runs of zero groups, as start and length. -/
def longestRun : List Nat → Nat → Nat × Nat
  | [], start => (start, 0)
  | group :: rest, start =>
    let later := longestRun rest (start + 1)
    let here := ((group :: rest).takeWhile (· == 0)).length
    if later.2 ≤ here then (start, here) else later

private def hexText (n : Nat) : List Char :=
  Nat.toDigits 16 n

/-- Groups with colons between them. -/
def groupsText (groups : List Nat) : List Char :=
  [':'].intercalate (groups.map hexText)

/-- An address in brackets, with its longest run of zeros left out. -/
def ipv6Text (groups : List Nat) : List Char :=
  let run := longestRun groups 0
  let body := if run.2 < 2 then groupsText groups
    else groupsText (groups.take run.1) ++ ':' :: ':' :: groupsText (groups.drop (run.1 + run.2))
  '[' :: body ++ [']']

/-- Characters an opaque host may not have. -/
def isForbiddenInOpaque (c : Char) : Bool :=
  c.toNat == 0 || "\t\n\r #/:<>?@[\\]^|".toList.contains c

/-- The address between brackets, if the text is written in brackets. -/
def bracketed? (text : List Char) : Option (List Char) :=
  match text with
  | '[' :: rest => if rest.getLast? = some ']' then some rest.dropLast else none
  | _ => none

/-- An address in brackets. -/
def bracketHost (text : List Char) : Except Fault (List Char) :=
  match (bracketed? text).bind ipv6? with
  | some groups => .ok (ipv6Text groups)
  | none => .error .invalidIpv6

/-- The host of a special scheme. -/
def special (text : List Char) : Except Fault (List Char) :=
  if text.head? = some '[' then bracketHost text
  else match Domain.ascii? text with
    | none => .error .invalidDomain
    | some domain =>
      if domain.isEmpty then .error .emptyHost
      else if endsInNumber domain then
        match ipv4? domain with
        | some address => .ok (ipv4Text address)
        | none => .error .invalidIpv4
      else .ok domain

/-- The host of any other scheme. -/
def opaqueHost (text : List Char) : Except Fault (List Char) :=
  if text.head? = some '[' then bracketHost text
  else if text.any isForbiddenInOpaque then .error .invalidDomainCharacter
  else .ok (Percent.encode Percent.isControl text)

end Host
end Uri
end CompilerRelay
