import SiteServer.Net.Ip
import SiteServer.Url.Domain
import SiteServer.Url.Percent

/-!
# Hosts

The host of a web address is an address of sixteen or four octets or a domain name.
An address of four octets is written in up to four numbers, each decimal, octal or
hexadecimal, the last of which stands for all octets that are left; a name whose last
label looks like a number has to be such an address.  An address of sixteen octets
stands in brackets.
-/

namespace SiteServer
namespace Url

/-- A host. -/
inductive Host where
  | domain (labels : List Domain.Label)
  | ipv4 (value : Nat)
  | ipv6 (pieces : List Nat)
  deriving DecidableEq, Repr

/-! ## Four octets -/

namespace Ipv4

/-- Whether a character is a digit in this base. -/
def isDigit (radix : Nat) (c : Char) : Bool :=
  match Text.hexDigit? c with
  | some d => d < radix
  | none => false

/-- The number some digits write. -/
def value (radix : Nat) (digits : List Char) : Nat :=
  digits.foldl (fun n c => n * radix + (Text.hexDigit? c).getD 0) 0

/-- Reads a number in the base its beginning says. -/
def number? (text : List Char) : Option Nat :=
  let (radix, digits) :=
    match text with
    | '0' :: 'x' :: rest => (16, rest)
    | '0' :: 'X' :: rest => (16, rest)
    | '0' :: c :: rest => (8, c :: rest)
    | _ => (10, text)
  if text.isEmpty then none
  else if digits.all (isDigit radix) then some (value radix digits)
  else none

/-- The parts of a name, without an empty last one. -/
def parts (name : List Char) : List (List Char) :=
  let ps := Text.split (· = '.') name
  if 1 < ps.length ∧ ps.getLast? = some [] then ps.dropLast else ps

/-- Whether a name ends in a number. -/
def endsInNumber (name : List Char) : Bool :=
  match (parts name).getLast? with
  | none => false
  | some last =>
    (!last.isEmpty && last.all (isDigit 10)) || (number? last).isSome

/-- Reads an address. -/
def parse? (name : List Char) : Option Nat := do
  let numbers ← (parts name).mapM number?
  let last ← numbers.getLast?
  let firsts := numbers.dropLast
  -- the last number stands for all octets that have none of their own
  let span := Nat.pow 256 (4 - firsts.length)
  if 4 < numbers.length ∨ firsts.any (255 < ·) ∨ span ≤ last then none
  else some (firsts.foldl (fun n x => n * 256 + x) 0 * span + last)

end Ipv4

/-! ## Hosts -/

namespace Host

/-- A label as text, if it is ASCII. -/
def asciiLabel? (label : Domain.Label) : Option (List Char) :=
  if Domain.isAscii label then some (label.map Char.ofNat) else none

/-- Joins labels with dots. -/
def joinLabels : List (List Char) → List Char
  | [] => []
  | [l] => l
  | l :: rest => l ++ '.' :: joinLabels rest

/-- A name as text.  A label that is not ASCII is written as one that is no number,
which is all that reading an address asks of it. -/
def asciiName (labels : List Domain.Label) : List Char :=
  joinLabels (labels.map fun label => (asciiLabel? label).getD "xn--".toList)

/-- Reads a host. -/
def parse? (text : List Char) : Option Host :=
  match text with
  | '[' :: rest =>
    if rest.getLast? = some ']' then (Net.Ipv6.pieces? rest.dropLast).map ipv6 else none
  | _ => do
    let name ← Utf8.decodeChars (Percent.decode (Utf8.encodeChars text))
    let labels ← Domain.labels? name
    let ascii := asciiName labels
    if ascii.isEmpty then none
    else if Ipv4.endsInNumber ascii then (Ipv4.parse? ascii).map ipv4
    else some (domain labels)

end Host
end Url
end SiteServer
