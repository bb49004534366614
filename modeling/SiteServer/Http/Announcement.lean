import SiteServer.Http.Connection
import SiteServer.Http.Receipt

/-!
# What a connection announces

The head of a response says whether the connection stays open, and a client that has received
the head goes by it.  The connection has a flag of its own for the same purpose, and the server
goes by that.

`Connection.Reached` are the states in which a connection can be, in whatever order it is read,
processed, written and reset.  A parser is meant to be made fresh before the next request; so it
is told apart whether the connection has answered since.
-/

namespace SiteServer
namespace Http

/-- What is said by the head that the octets begin with. -/
def Receipt.announced? (octets : Bytes) : Option Receipt.Summary := do
  let (head, _) ← Reply.cutHead? octets
  summary? head

/-- The states of a connection, and whether it has answered since it was accepted or reset.
Anything may happen to the stream at its other end, and the service may be another one each time
as long as it reads requests in the same way. -/
inductive Connection.Reached (d : Dialect) : Bool → Connection → Prop where
  | accepted (id : Nat) (peer : Net.SocketAddress) (stream : Stream)
    (readCapacity writeCapacity : Nat) :
    Reached d false (.accepted id peer stream readCapacity writeCapacity)
  | stream {answered : Bool} {c : Connection} (stream : Stream) :
    Reached d answered c → Reached d answered { c with stream }
  | read {answered : Bool} {c : Connection} : Reached d answered c → Reached d answered c.read.2
  | wait {answered : Bool} {c : Connection} (v : Service) (session : Store.Session) :
    v.dialect = d → (c.process v session).1 = .read → Reached d answered c →
    Reached d answered (c.process v session).2.1
  | answer {answered : Bool} {c : Connection} (v : Service) (session : Store.Session) :
    v.dialect = d → (c.process v session).1 ≠ .read → Reached d answered c →
    Reached d true (c.process v session).2.1
  | write {answered : Bool} {c : Connection} : Reached d answered c → Reached d answered c.write.2
  | reset {answered : Bool} {c : Connection} : Reached d answered c → Reached d false c.reset

end Http
end SiteServer
