import SiteServer.Text.Unsigned
import SiteServer.Text.Utf8
import SiteServer.Text.Words

/-!
# Responses as a client reads them

A client reads up to the first empty line, finds there how long the body is, and reads
so much more.  What is left over begins the next response.
-/

namespace SiteServer
namespace Http

/-- A response as it was received. -/
structure Reply where
  /-- Everything up to and with the empty line. -/
  head : Bytes
  body : Bytes
  deriving DecidableEq, Repr

namespace Reply

/-- The end of a line and an empty line. -/
def headEnd : Bytes := Bytes.crlf ++ Bytes.crlf

/-- Cuts behind the first empty line. -/
def cutHead? : Bytes → Option (Bytes × Bytes)
  | [] => none
  | b :: rest =>
    if headEnd.isPrefixOf (b :: rest) then some (headEnd, (b :: rest).drop headEnd.length)
    else (cutHead? rest).map fun (head, body) => (b :: head, body)

/-- The length that a line announces. -/
def announced? (line : List Char) : Option Nat := do
  let digits ← Text.afterIgnoreCase? "Content-Length:".toList line
  match Text.readUnsigned Text.max64 (Text.trim Char.isWhitespace digits) with
  | .ok n => some n
  | .error _ => none

/-- The length of the body that a head announces. -/
def contentLength? (head : Bytes) : Option Nat :=
  (Text.split (· = '\n') (Utf8.decodeLossy head)).findSome? announced?

/-- Reads one response, if it is complete, and tells what is left over. -/
def read? (received : Bytes) : Option (Reply × Bytes) := do
  let (head, rest) ← cutHead? received
  let n ← contentLength? head
  if n ≤ rest.length then some (⟨head, rest.take n⟩, rest.drop n) else none

end Reply
end Http
end SiteServer
