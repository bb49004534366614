import SiteServer.Text.RangeTable
import SiteServer.Text.Utf8

/-!
# Percent escapes

An octet that may not stand in some part of an address is written as a percent sign
and two hexadecimal digits.  Which octets those are depends on the part.
-/

namespace SiteServer
namespace Url
namespace Percent

/-- An octet written as an escape. -/
def escape (b : UInt8) : List Char :=
  ['%', (Nat.digitChar (b.toNat / 16)).toUpper, (Nat.digitChar (b.toNat % 16)).toUpper]

/-- The octets that never stand for themselves: controls and everything beyond
ASCII. -/
def isControl (c : Char) : Bool := c.toNat < 0x20 || 0x7E < c.toNat

/-- The characters escaped in a path. -/
def inPath (c : Char) : Bool := isControl c || " \"#<>?`\x7b\x7d".toList.contains c

/-- The characters escaped in a query. -/
def inQuery (c : Char) : Bool := isControl c || " \"#<>'".toList.contains c

/-- Writes a text with the octets of the characters in a set escaped. -/
def encode (set : Char → Bool) (text : List Char) : List Char :=
  text.flatMap fun c => if set c then (Utf8.encodeChar c).flatMap escape else [c]

/-- The value of a hexadecimal digit given as an octet. -/
def digit? (b : UInt8) : Option Nat := Text.hexDigit? (Char.ofNat b.toNat)

/-- The octet that a percent sign and these two octets stand for. -/
def unescape? (a b : UInt8) : Option UInt8 :=
  match digit? a, digit? b with
  | some x, some y => some (UInt8.ofNat (16 * x + y))
  | _, _ => none

/-- Reads escapes.  A percent sign that begins none stands for itself. -/
def decode : Bytes → Bytes
  | [] => []
  | c :: a :: b :: rest =>
    match if c = 0x25 then unescape? a b else none with
    | some x => x :: decode rest
    | none => c :: decode (a :: b :: rest)
  | c :: rest => c :: decode rest

end Percent
end Url
end SiteServer
