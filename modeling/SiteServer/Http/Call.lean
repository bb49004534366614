import SiteServer.Http.Connection

/-!
# What is done to a connection

A connection is created, read, processed, written and reset, in whatever order somebody
calls for it; nothing in the connection itself forbids an order that makes no sense.  A
`Call` says what was done to which connection and what the connection was like then.  From
the calls on a connection one can tell what was read and what was written, which responses
were put on their way and which of all that belongs to the request in hand.
-/

namespace SiteServer

/-- The octets that a delivery brings. -/
def Delivery.octets : Delivery → Bytes
  | .data bytes => bytes
  | .fault _ => []

/-- The octets that are still to arrive. -/
def Stream.payload (s : Stream) : Bytes := s.arriving.flatMap Delivery.octets

namespace Http

/-- What is done to a connection. -/
inductive Call.Kind where
  | create
  | read
  /-- It is processed, with the store as it is then. -/
  | process (session : Store.Session)
  | write
  | reset
  deriving DecidableEq, Repr

/-- Something done to a connection. -/
structure Call where
  /-- The number of the connection. -/
  number : Nat
  kind : Call.Kind
  /-- The connection when it is called, or as it is created. -/
  before : Connection
  deriving DecidableEq, Repr

namespace Call

/-- The connection after a call. -/
def after (v : Service) (c : Call) : Connection :=
  match c.kind with
  | .create => c.before
  | .read => c.before.read.2
  | .process session => (c.before.process v session).2.1
  | .write => c.before.write.2
  | .reset => c.before.reset

/-- Whether a connection is reset. -/
def isReset (c : Call) : Bool := c.kind = .reset

/-- The octets that a call has read. -/
def received (c : Call) : Bytes :=
  match c.kind with
  | .read => c.before.read.2.buffer.data.drop c.before.buffer.data.length
  | _ => []

/-- The octets that the client has accepted in a call. -/
def sent (c : Call) : Bytes :=
  match c.kind with
  | .write => c.before.write.2.stream.written.drop c.before.stream.written.length
  | _ => []

/-- The response that a call has come up with: the answer to a request that is complete, or
to one that was refused. -/
def answer? (v : Service) (c : Call) : Option Response :=
  match c.kind with
  | .process session =>
    match (c.before.parser.parse v.dialect c.before.buffer).1 with
    | .ok .incomplete => none
    | .ok (.complete request) => some (v.site.respond v.files request session).1
    | .error e => some (.ofRefusal e)
  | _ => none

/-- The responses that some calls have come up with, in order. -/
def answers (v : Service) (calls : List Call) : List Response := calls.filterMap (answer? v)

/-- The calls since the connection was last reset, or all if it was not. -/
def sinceReset (calls : List Call) : List Call :=
  (calls.reverse.takeWhile fun c => !c.isReset).reverse

end Call
end Http
end SiteServer
