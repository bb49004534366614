import SiteServer.Text.RangeTable
import SiteServer.Text.Unsigned

/-!
# Internet addresses

The written forms of addresses of four octets and of sixteen.  Four octets are written
in decimal with dots between; sixteen as eight numbers in base 16 with colons between,
where a double colon stands for zeros and the last two numbers may be written as four
octets.
-/

namespace SiteServer
namespace Net

/-! ## Four octets -/

namespace Ipv4

/-- A decimal number of one to three digits, without leading zeros, below 256. -/
def octet? (text : List Char) : Option Nat :=
  match text with
  | [] => none
  | '0' :: _ :: _ => none
  | _ =>
    let n := Text.decimalNumber text
    if text.all Char.isDigit && text.length ≤ 3 && n ≤ 255 then some n else none

/-- Reads an address. -/
def octets? (text : List Char) : Option (List Nat) :=
  match (Text.split (· = '.') text).mapM octet? with
  | some [a, b, c, d] => some [a, b, c, d]
  | _ => none

/-- Writes an address. -/
def text (octets : List Nat) : String := ".".intercalate (octets.map toString)

end Ipv4

/-! ## Sixteen octets -/

namespace Ipv6

/-- How many pieces an address has. -/
def size : Nat := 8

/-- A piece of one to four hexadecimal digits. -/
def piece? (text : List Char) : Option Nat :=
  if !text.isEmpty && text.length ≤ 4 && text.all fun c => (Text.hexDigit? c).isSome then
    some (Text.hexNumber text)
  else none

/-- The two pieces of four octets with dots between. -/
def dotted? (text : List Char) : Option (List Nat) :=
  match Ipv4.octets? text with
  | some [a, b, c, d] => some [a * 256 + b, c * 256 + d]
  | _ => none

/-- Pieces between colons, none for an empty text.  `last` says whether the text
reaches to the end of the address, where four octets may stand for two pieces. -/
def run? (last : Bool) (text : List Char) : Option (List Nat) :=
  if text.isEmpty then some []
  else
    let parts := Text.split (· = ':') text
    match parts.dropLast.mapM piece?, parts.getLast? with
    | some front, some back =>
      match piece? back with
      | some p => some (front ++ [p])
      | none => if last then (dotted? back).map (front ++ ·) else none
    | _, _ => none

/-- What stands before and after the first double colon. -/
def splitDouble? : List Char → Option (List Char × List Char)
  | ':' :: ':' :: rest => some ([], rest)
  | c :: rest => (splitDouble? rest).map fun (a, b) => (c :: a, b)
  | [] => none

/-- Reads an address: eight pieces, or fewer around one double colon. -/
def pieces? (text : List Char) : Option (List Nat) :=
  match splitDouble? text with
  | none =>
    match run? true text with
    | some ps => if ps.length = size then some ps else none
    | none => none
  | some (before, after) =>
    match run? false before, run? true after with
    | some a, some b =>
      if a.length + b.length < size then
        some (a ++ List.replicate (size - a.length - b.length) 0 ++ b)
      else none
    | _, _ => none

/-! ## Writing -/

/-- The length of the run of zeros at the beginning. -/
def zeros (pieces : List Nat) : Nat := (pieces.takeWhile (· = 0)).length

/-- The place and length of the first of the longest runs of zeros. -/
def longestZeros : List Nat → Nat × Nat
  | [] => (0, 0)
  | p :: rest =>
    let (start, length) := longestZeros rest
    if length ≤ zeros (p :: rest) then (0, zeros (p :: rest)) else (start + 1, length)

/-- Writes pieces with colons between. -/
def runText (pieces : List Nat) : String :=
  ":".intercalate (pieces.map fun p => String.ofList (Nat.toDigits 16 p))

/-- Writes an address, its longest run of two or more zeros as a double colon.  One that
stands for four octets is written with them. -/
def text (pieces : List Nat) : String :=
  match pieces with
  | [0, 0, 0, 0, 0, 0xFFFF, a, b] =>
    "::ffff:" ++ Ipv4.text [a / 256, a % 256, b / 256, b % 256]
  | _ =>
    let (start, length) := longestZeros pieces
    if 1 < length then
      runText (pieces.take start) ++ "::" ++ runText (pieces.drop (start + length))
    else runText pieces

end Ipv6
end Net
end SiteServer
