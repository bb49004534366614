import SiteServer.Text.Utf8
import SiteServer.Text.Words

/-!
# Cuts through octets

A text that is kept as its octets is searched and cut by counting octets.  It may be cut only
where one character ends and the next one begins; a cut anywhere else is refused, because neither
of the two parts would be text.
-/

namespace SiteServer

namespace Text

/-- Where a word stands for the first time, if it does. -/
def place? {α : Type} [BEq α] (word : List α) : List α → Option Nat
  | [] => if word.isEmpty then some 0 else none
  | c :: cs => if word.isPrefixOf (c :: cs) then some 0 else (place? word cs).map (· + 1)

end Text

namespace Utf8

/-- A cut that was refused. -/
inductive CutFault where
  /-- The place is within a character, or beyond the text. -/
  | noSeam (place : Nat)
  deriving DecidableEq, Repr

/-- Whether the octets of a text may be cut at a place: at either end, or in front of an octet
that begins a character. -/
def isSeam (octets : Bytes) (place : Nat) : Bool :=
  place = 0 ||
    match octets[place]? with
    | some b => !isTail b
    | none => place = octets.length

/-- The octets before and behind a place. -/
def cut (octets : Bytes) (place : Nat) : Except CutFault (Bytes × Bytes) :=
  if isSeam octets place then .ok (octets.take place, octets.drop place)
  else .error (.noSeam place)

end Utf8
end SiteServer
