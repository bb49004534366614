import SiteServer.Http.Connection
import SiteServer.DeadlineList.Basic

/-!
# Slots

What the event loop keeps about a connection that is open.  A slot waits for its socket
to become readable or writable, or its connection is away: on the way to a worker, in
its hands or on the way back.  While it is, nothing is done to the connection by the
loop; what should end it then condemns the slot, and it ends when it is back.
-/

namespace SiteServer
namespace Server

/-- Why a connection was closed. -/
inductive ClosingReason where
  /-- The response was sent, and the connection was not to be kept open. -/
  | completed
  | peerClosed
  | hangUp
  | readFailed
  /-- The request did not fit into the buffer. -/
  | bufferFull
  | writeFailed
  /-- There was no response that could be sent. -/
  | rejected
  /-- The machine would not watch the socket any longer. -/
  | rearmFailed
  | idleTimeout
  | shutdown
  deriving DecidableEq, Repr

/-- What a slot waits for. -/
inductive Readiness where
  | read
  | write
  deriving DecidableEq, Repr

/-- What names a connection where slots may have changed hands: the key of its slot, and
its number. -/
structure Ticket where
  key : Nat
  id : Nat
  deriving DecidableEq, Repr

/-- An open connection. -/
structure Slot where
  id : Nat
  /-- Its deadline, until it has passed. -/
  deadline : Option DeadlineId
  awaits : Option Readiness
  /-- The connection is on the way to a worker, with one, or on the way back. -/
  isAway : Bool := false
  /-- Why it will be closed once it is back. -/
  condemned : Option ClosingReason := none
  deriving DecidableEq, Repr

namespace Slot

/-- The slot of a connection that has just been accepted. -/
def opened (id : Nat) (deadline : DeadlineId) : Slot where
  id := id
  deadline := some deadline
  awaits := some .read

/-- Condemns a slot.  The first reason counts. -/
def condemn (s : Slot) (reason : ClosingReason) : Slot :=
  { s with condemned := s.condemned.or (some reason) }

/-- Sends a connection off to a worker. -/
def depart (s : Slot) : Slot := { s with awaits := none, isAway := true }

/-- Takes a connection back from a worker. -/
def comeBack (s : Slot) : Slot := { s with isAway := false }

/-- Waits for a socket. -/
def await (s : Slot) (readiness : Readiness) : Slot := { s with awaits := some readiness }

end Slot

/-- A job for a worker, with what the connection needs next once that is known. -/
structure Job where
  ticket : Ticket
  outcome : Option Http.Need := none
  deriving DecidableEq, Repr

end Server
end SiteServer
