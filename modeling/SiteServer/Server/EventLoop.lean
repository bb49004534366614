import SiteServer.Concurrency.WorkerPool
import SiteServer.Config.Basic
import SiteServer.Server.Slot
import SiteServer.KeyTable

/-!
# The event loop

One thread accepts clients, reads from sockets and writes to them, and closes
connections that have been idle for too long.  Requests are read and answered by
workers: a connection from which something has been read is handed over to them through
a queue, or waits in the backlog while the queue is full, and a message tells the loop
what the connection needs next.

A notice that a socket is ready names the slot by its key alone.  Everything else names
connections by their tickets, so that it cannot meet another connection that has been
given the same slot.

The operations are those of the loop's thread; each of them answers `none` only if the
deadlines are broken or a connection has been lost.  The clock's readings are arguments.
-/

namespace SiteServer
namespace Server

/-- What a client is told when there are too many. -/
def busyText : Bytes := Utf8.encode "Internal server busy"

/-- How many idle units a connection may be idle for. -/
def idleLimit : Nat := 3

/-- A notice that a socket is ready. -/
structure Notice where
  /-- The key of the slot. -/
  key : Nat
  /-- The connection whose socket it is.  The loop does not see it. -/
  source : Nat
  /-- The socket has failed, or its sending half is closed. -/
  hangUp : Bool := false
  /-- There is something to read, or nothing will come any more. -/
  readable : Bool := false
  writable : Bool := false
  deriving DecidableEq, Repr

/-- The event loop, its connections and its workers. -/
structure EventLoop where
  service : Http.Service
  config : Config
  slots : KeyTable Slot := {}
  deadlines : DeadlineList Ticket := .empty
  /-- Connections for which there was no room in the queue. -/
  backlog : List Ticket := []
  pool : WorkerPool Job
  /-- Messages from workers, the oldest in front. -/
  messages : List (Ticket × Http.Need) := []
  /-- Every connection ever accepted, by its number. -/
  connections : List Http.Connection := []
  /-- How many connections are open. -/
  openCount : Nat := 0
  /-- Notices still to be looked at. -/
  batch : List Notice := []
  /-- The connections, by their numbers, whose sockets the machine will not watch when it
  is asked to. -/
  unwatched : List Nat := []
  credentials : Store.Credentials
  storage : Store.Storage
  /-- The handles on the storage that workers may use. -/
  handles : List Store.Backend
  /-- The connections that were closed, and why, the last in front. -/
  closed : List (Nat × ClosingReason) := []

namespace EventLoop

/-- A loop without connections. -/
def start (config : Config) (service : Http.Service) (credentials : Store.Credentials)
    (storage : Store.Storage) (handles : List Store.Backend) :
    Except WorkerPool.Fault EventLoop :=
  match WorkerPool.make config.pool.workers config.pool.maxRequests with
  | .error f => .error f
  | .ok pool => .ok { service, config, pool, credentials, storage, handles }

/-! ## Slots and connections -/

/-- The slot of the connection with a ticket, if it still has it. -/
def slot? (r : EventLoop) (t : Ticket) : Option Slot :=
  (r.slots.get? t.key).filter fun s => s.id = t.id

/-- Changes the slot under a key. -/
def updateSlot (r : EventLoop) (key : Nat) (f : Slot → Slot) : EventLoop :=
  { r with slots := r.slots.modify key f }

/-- Puts back a connection that has changed. -/
def setConnection (r : EventLoop) (id : Nat) (c : Http.Connection) : EventLoop :=
  { r with connections := r.connections.set id c }

/-- How long a connection may be idle. -/
def window (r : EventLoop) : Nat := r.config.clock.idleUnit * idleLimit

/-- The deadlines without that of a slot. -/
def deadlinesWithout (r : EventLoop) (slot : Slot) : Option (DeadlineList Ticket) :=
  match slot.deadline with
  | some id => (r.deadlines.remove id).map (·.2)
  | none => some r.deadlines

/-- Closes the connection in a slot: its deadline and its slot are given up. -/
def close (r : EventLoop) (key : Nat) (reason : ClosingReason) : Option EventLoop :=
  match r.slots.get? key with
  | none => some r
  | some slot =>
    (r.deadlinesWithout slot).map fun deadlines => { r with
      slots := r.slots.remove key
      deadlines
      openCount := r.openCount - 1
      closed := (slot.id, reason) :: r.closed }

/-- Puts off the deadline of the connection in a slot. -/
def putOff (r : EventLoop) (now key : Nat) : Option EventLoop :=
  match (r.slots.get? key).bind (·.deadline) with
  | none => some r
  | some id => (r.deadlines.reschedule id (now + r.window)).map fun (_, deadlines) =>
    { r with deadlines }

/-- Makes a slot wait for its socket, or closes the connection if the machine will not
watch it. -/
def await (r : EventLoop) (key : Nat) (readiness : Readiness) : Option EventLoop :=
  match r.slots.get? key with
  | none => some r
  | some slot =>
    let r := r.updateSlot key (·.await readiness)
    if slot.id ∈ r.unwatched then r.close key .rearmFailed else some r

/-! ## Accepting -/

/-- Whether no more clients are accepted. -/
def isFull (r : EventLoop) : Bool := r.config.server.maxConnections ≤ r.openCount

/-- Accepts a client, unless there are too many or the machine will not watch its
socket. -/
def accept (r : EventLoop) (now : Nat) (peer : Net.SocketAddress) (stream : Stream) :
    Option EventLoop :=
  if r.isFull || r.connections.length ∈ r.unwatched then some r
  else do
    let ticket : Ticket := ⟨r.slots.nextKey, r.connections.length⟩
    let (deadline, deadlines) ← r.deadlines.insert (now + r.window) ticket
    let c := Http.Connection.accepted ticket.id peer stream
      r.config.buffers.readCapacity r.config.buffers.writeCapacity
    some { r with
      slots := r.slots.insert (.opened ticket.id deadline)
      deadlines
      connections := r.connections ++ [c]
      openCount := r.openCount + 1 }

/-! ## Notices -/

/-- Hands a connection over to the workers. -/
def handOver (r : EventLoop) (key : Nat) : EventLoop :=
  match r.slots.get? key with
  | none => r
  | some slot =>
    let ticket : Ticket := ⟨key, slot.id⟩
    let r := r.updateSlot key Slot.depart
    match r.pool.offer { ticket } with
    | .ok pool => { r with pool }
    | .error job => { r with backlog := r.backlog ++ [job.ticket] }

/-- Reads from the connection in a slot. -/
def receive (r : EventLoop) (now key : Nat) (slot : Slot) : Option EventLoop := do
  let c ← r.connections[slot.id]?
  let (outcome, c) := c.read
  let r := r.setConnection slot.id c
  match outcome with
  | .ok (.data 0) => some r
  | .ok (.data _) => (r.putOff now key).map fun r => r.handOver key
  | .ok .closed => r.close key .peerClosed
  | .ok .full => r.close key .bufferFull
  | .error _ => r.close key .readFailed

/-- Writes to the connection in a slot. -/
def transmit (r : EventLoop) (now key : Nat) (slot : Slot) : Option EventLoop := do
  let c ← r.connections[slot.id]?
  let (outcome, c) := c.write
  match outcome with
  | .done _ =>
    if c.keepAlive then
      ((r.setConnection slot.id c.reset).putOff now key).bind fun r => r.await key .read
    else (r.setConnection slot.id c).close key .completed
  | .blocked written =>
    let r := r.setConnection slot.id c
    if 0 < written then r.putOff now key else some r
  | .closedWhileWriting | .failed _ => (r.setConnection slot.id c).close key .writeFailed
  | .outOfRange => none

/-- Does what a notice asks for.  A notice that a slot is ready for what it does not
wait for is dropped. -/
def heed (r : EventLoop) (now : Nat) (n : Notice) : Option EventLoop :=
  match r.slots.get? n.key with
  | none => some r
  | some slot =>
    if n.hangUp then
      if slot.isAway then some (r.updateSlot n.key (·.condemn .hangUp))
      else r.close n.key .hangUp
    else
      match slot.awaits with
      | some .read => if n.readable then r.receive now n.key slot else some r
      | some .write => if n.writable then r.transmit now n.key slot else some r
      | none => some r

/-! ## The backlog -/

/-- Offers the first connection of the backlog to the workers again, or closes it if it
is condemned.  Tells whether the next may be looked at. -/
def offerFirst (r : EventLoop) : Option (EventLoop × Bool) :=
  match r.backlog with
  | [] => some (r, false)
  | t :: backlog =>
    match r.slot? t with
    | none => some ({ r with backlog }, true)
    | some slot =>
      match slot.condemned with
      | some reason => ({ r with backlog }.close t.key reason).map fun r => (r, true)
      | none =>
        match r.pool.offer { ticket := t } with
        | .ok pool => some ({ r with backlog, pool }, true)
        | .error _ => some (r, false)

/-- Goes through so many connections of the backlog, or until one has to wait. -/
def offerTimes : Nat → EventLoop → Option EventLoop
  | 0, r => some r
  | n + 1, r => do
    let (r, more) ← r.offerFirst
    if more then offerTimes n r else some r

/-- Goes through the backlog until a connection has to wait. -/
def offerBacklog (r : EventLoop) : Option EventLoop := offerTimes r.backlog.length r

/-! ## Messages from workers -/

/-- Takes the first message from a worker. -/
def hearFirst (r : EventLoop) : Option EventLoop :=
  match r.messages with
  | [] => some r
  | (t, next) :: messages =>
    let r := { r with messages }
    match r.slot? t with
    | none => some r
    | some slot =>
      let r := r.updateSlot t.key Slot.comeBack
      match slot.condemned, next with
      | some reason, _ => r.close t.key reason
      | none, .read => r.await t.key .read
      | none, .write => r.await t.key .write
      | none, .close => r.close t.key .rejected

/-- Takes so many messages from workers. -/
def hearTimes : Nat → EventLoop → Option EventLoop
  | 0, r => some r
  | n + 1, r => r.hearFirst.bind (hearTimes n)

/-- Takes all messages from workers. -/
def hearAll (r : EventLoop) : Option EventLoop := hearTimes r.messages.length r

/-! ## The clock -/

/-- Ends a connection whose deadline has passed. -/
def endOverdue (r : EventLoop) (t : Ticket) : Option EventLoop :=
  match r.slot? t with
  | none => some r
  | some slot =>
    let r := r.updateSlot t.key fun s => { s with deadline := none }
    if slot.isAway then some (r.updateSlot t.key (·.condemn .idleTimeout))
    else r.close t.key .idleTimeout

/-- Ends every connection whose deadline has passed. -/
def tick (r : EventLoop) (now : Nat) : Option EventLoop := do
  let (expired, deadlines) ← r.deadlines.takeDue now
  expired.foldlM endOverdue { r with deadlines }

/-- Closes every connection and forgets the backlog. -/
def shutdown (r : EventLoop) : Option EventLoop := do
  let r ← r.slots.keys.foldlM (fun r key => r.close key .shutdown) r
  some { r with backlog := [] }

/-! ## Workers -/

/-- Lets a worker answer the request on the connection in its hands, with one of the
handles. -/
def process (r : EventLoop) (worker handle : Nat) : Option EventLoop := do
  let backend ← r.handles[handle]?
  match ← r.pool.workers[worker]? with
  | .handling ⟨t, none⟩ =>
    let c ← r.connections[t.id]?
    let (next, c, session) := c.process r.service ⟨r.credentials, backend, r.storage⟩
    some { r.setConnection t.id c with
      credentials := session.credentials
      storage := session.storage
      pool := r.pool.move worker (.handling ⟨t, some next⟩) }
  | _ => none

/-- Lets a worker tell what the connection in its hands needs next, and let go of it. -/
def send (r : EventLoop) (worker : Nat) : Option EventLoop := do
  match ← r.pool.workers[worker]? with
  | .handling ⟨t, some next⟩ =>
    let pool ← r.pool.step (.finish worker)
    some { r with pool, messages := r.messages ++ [(t, next)] }
  | _ => none

end EventLoop
end Server
end SiteServer
