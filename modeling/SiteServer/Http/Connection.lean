import SiteServer.Http.Site
import SiteServer.Http.Writer
import SiteServer.Net.SocketAddress

/-!
# Connections

Everything that belongs to one client: its stream, what it has sent, the parser and
the writer.  A connection is read until the stream would block, processed, and
written until the stream would block; after a response that keeps the connection
open it is reset to what it was when it was accepted.
-/

namespace SiteServer
namespace Http

/-- What a connection needs after it has been processed. -/
inductive Need where
  /-- The request is not complete. -/
  | read
  /-- A response is on its way. -/
  | write
  /-- There is nothing to send. -/
  | close
  deriving DecidableEq, Repr

/-- What reading until the stream would block came to. -/
inductive Intake where
  /-- So many octets arrived. -/
  | data (count : Nat)
  /-- The other side has closed its sending half. -/
  | closed
  /-- The buffer was full, and the request is still not complete. -/
  | full
  deriving DecidableEq, Repr

/-- One client. -/
structure Connection where
  id : Nat
  /-- Where the client is. -/
  peer : Net.SocketAddress
  stream : Stream
  buffer : ReceiveBuffer
  parser : Parser
  writer : Writer
  /-- Whether the response on its way keeps the connection open. -/
  keepAlive : Bool
  deriving DecidableEq, Repr

/-- How requests become responses: the site, its files, and how web addresses are
read. -/
structure Service where
  site : Site
  files : Files.View
  address : List Char → Option Url.Parts

/-- How a service reads requests. -/
def Service.dialect (v : Service) : Dialect := ⟨v.site.landing, v.address⟩

namespace Connection

/-- A client just accepted. -/
def accepted (id : Nat) (peer : Net.SocketAddress) (stream : Stream)
    (readCapacity writeCapacity : Nat) : Connection where
  id := id
  peer := peer
  stream := stream
  buffer := .ofCapacity readCapacity
  parser := .fresh
  writer := .ofCapacity writeCapacity
  keepAlive := false

/-- Puts a response on its way.  A head that does not fit leaves nothing to send. -/
def reply (c : Connection) (r : Response) : Need × Connection :=
  match c.writer.compose r with
  | (.ok (), writer) => (.write, { c with writer, keepAlive := r.keepAlive })
  | (.error _, writer) => (.close, { c with writer, keepAlive := r.keepAlive })

/-- Reads what has arrived as a request and, once it is complete or refused, puts
the response on its way. -/
def process (c : Connection) (v : Service) (session : Store.Session) :
    Need × Connection × Store.Session :=
  match c.parser.parse v.dialect c.buffer with
  | (.ok .incomplete, parser, buffer) => (.read, { c with parser, buffer }, session)
  | (.ok (.complete request), parser, buffer) =>
    let (response, session) := v.site.respond v.files request session
    let (next, c) := { c with parser, buffer }.reply response
    (next, c, session)
  | (.error e, parser, buffer) =>
    let (next, c) := { c with parser, buffer }.reply (.ofRefusal e)
    (next, c, session)

/-- The file that answering the request asks for, once the request is complete. -/
def wanted? (c : Connection) (v : Service) (session : Store.Session) : Option String :=
  match c.parser.parse v.dialect c.buffer with
  | (.ok (.complete request), _) => v.site.path? (Route.route request session).1
  | _ => none

/-- Back to what it was when it was accepted. -/
def reset (c : Connection) : Connection :=
  { c with
    buffer := c.buffer.clear
    parser := .fresh
    writer := c.writer.clear
    keepAlive := false }

/-! ## Reading -/

/-- What one attempt to fill the buffer comes to, when `total` octets have been read
before it. -/
inductive ReadTurn where
  | stop (answer : Except StreamFault Intake)
  | again (total : Nat)

/-- Whether to go on after an attempt to fill the buffer. -/
def readTurn (total : Nat) : Except StreamFault Fill → ReadTurn
  | .ok (.read n) => .again (total + n)
  | .ok .closed => .stop (.ok .closed)
  | .ok .full => .stop (.ok (if 0 < total then .data total else .full))
  | .error .wouldBlock => .stop (.ok (.data total))
  | .error .interrupted => .again total
  | .error (.failed reason) => .stop (.error (.failed reason))

/-- An attempt after which there is another has taken up room, or a delivery. -/
theorem readTurn_again {b b' : ReceiveBuffer} {s s' : Stream} {result : Except StreamFault Fill}
    {total total' : Nat} (hf : b.fill s = (result, b', s'))
    (ht : readTurn total result = .again total') :
    b'.remaining + s'.arriving.length < b.remaining + s.arriving.length := by
  rcases ReceiveBuffer.fill_cases hf with ⟨-, rfl, -, -⟩ | ⟨hroom, ⟨f, hr, rfl, rfl⟩ |
    ⟨-, rfl, -⟩ | ⟨x, xs, hr, -, rfl⟩⟩
  · cases ht
  · rcases Stream.arriving_of_read_error hr with ⟨rfl, _⟩ | ha
    · cases ht
    · rw [ha, List.length_cons]
      exact Nat.lt_succ_self _
  · cases ht
  · have htaken := Stream.length_le_of_read hr
    have hfewer := Stream.length_arriving_of_read_le hr
    simp only [ReceiveBuffer.remaining, ReceiveBuffer.size, List.length_append, List.length_cons]
      at *
    omega

/-- Fills the buffer until the stream has no more for it. -/
def readLoop (b : ReceiveBuffer) (s : Stream) (total : Nat) :
    Except StreamFault Intake × ReceiveBuffer × Stream :=
  match _hf : b.fill s with
  | (result, b', s') =>
    match _ht : readTurn total result with
    | .stop answer => (answer, b', s')
    | .again total => readLoop b' s' total
termination_by b.remaining + s.arriving.length
decreasing_by exact readTurn_again _hf _ht

/-- Reads until the stream would block, the other side closes, or the buffer is
full. -/
def read (c : Connection) : Except StreamFault Intake × Connection :=
  match readLoop c.buffer c.stream 0 with
  | (answer, buffer, stream) => (answer, { c with buffer, stream })

/-- Sends as much of the response as the stream takes. -/
def write (c : Connection) : FlushOutcome × Connection :=
  match c.writer.flush c.stream with
  | (answer, writer, stream) => (answer, { c with writer, stream })

end Connection
end Http
end SiteServer
