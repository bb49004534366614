import SiteServer.Net.Ip

/-!
# Addresses of sockets

An internet address and a port.  An address of sixteen octets stands in brackets and may
carry a scope.
-/

namespace SiteServer
namespace Net

/-- An internet address. -/
inductive Ip where
  | v4 (octets : List Nat)
  | v6 (pieces : List Nat)
  deriving DecidableEq, Repr

namespace Ip

/-- Writes an address. -/
def text : Ip → String
  | v4 octets => Ipv4.text octets
  | v6 pieces => Ipv6.text pieces

/-- Whether an address belongs to every host: one that stands for all its own addresses,
one that loops back to it, or one of a group. -/
def isOwn : Ip → Bool
  | v4 octets =>
    octets.head? = some 127 || octets = [0, 0, 0, 0] || octets = [255, 255, 255, 255] ||
      (octets.head?.map fun a => decide (224 ≤ a) && decide (a < 240)).getD false
  | v6 [0, 0, 0, 0, 0, 0xFFFF, a, b] => a / 256 = 127 || (a = 0 && b = 0)
  | v6 pieces => pieces = [0, 0, 0, 0, 0, 0, 0, 0] || pieces = [0, 0, 0, 0, 0, 0, 0, 1]

end Ip

/-- The address of a socket. -/
structure SocketAddress where
  ip : Ip
  port : Nat
  /-- The scope of an address of sixteen octets, zero if it has none. -/
  scope : Nat := 0
  deriving DecidableEq, Repr

namespace SocketAddress

/-- Reads a number of one or more decimal digits that is at most `limit`. -/
def number? (limit : Nat) (text : List Char) : Option Nat :=
  if text.isEmpty then none
  else
    match Text.readDigits limit 0 text with
    | .ok n => some n
    | .error _ => none

/-- Reads the colon and the port behind an address. -/
def port? : List Char → Option Nat
  | ':' :: digits => number? Text.max16 digits
  | _ => none

/-- Reads what stands in brackets: an address and perhaps a scope. -/
def bracketed? (text : List Char) : Option (List Nat × Nat) :=
  match Text.splitOnce? (· = '%') text with
  | none => (Ipv6.pieces? text).map fun pieces => (pieces, 0)
  | some (address, scope) => do
    some (← Ipv6.pieces? address, ← number? Text.max32 scope)

/-- Reads the address of a socket. -/
def ofText? (text : List Char) : Option SocketAddress :=
  match text with
  | '[' :: rest => do
    let (inside, after) ← Text.splitOnce? (· = ']') rest
    let (pieces, scope) ← bracketed? inside
    some { ip := .v6 pieces, port := ← port? after, scope }
  | _ => do
    let octets ← Ipv4.octets? (text.takeWhile (· ≠ ':'))
    some { ip := .v4 octets, port := ← port? (text.dropWhile (· ≠ ':')) }

/-- Writes the address of a socket. -/
def text (a : SocketAddress) : String :=
  match a.ip with
  | .v4 octets => Ipv4.text octets ++ ":" ++ toString a.port
  | .v6 pieces =>
    let scope := if a.scope = 0 then "" else "%" ++ toString a.scope
    "[" ++ Ipv6.text pieces ++ scope ++ "]:" ++ toString a.port

end SocketAddress
end Net
end SiteServer
