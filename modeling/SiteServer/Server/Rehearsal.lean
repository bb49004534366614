import SiteServer.Http.Reply
import SiteServer.Server.Listen
import SiteServer.Server.Round

/-!
# Servers and their clients, one step at a time

A server is driven by clients.  Whatever the server can do it does before the next
client takes a step, so what a client sees depends on nothing but the steps.  Time stands
still: a deadline is due at a tick only if there is no idle time at all.

Clients need a network that lets them reach the server.
-/

namespace SiteServer
namespace Server

/-- What a client is connected to. -/
inductive Link where
  /-- A connection, by its number. -/
  | connection (id : Nat)
  /-- A server that has turned it away, with these words. -/
  | turnedAway (words : Bytes)
  deriving DecidableEq, Repr

/-- A client. -/
structure Client where
  link : Link
  /-- How many octets it has received. -/
  seen : Nat := 0
  deriving DecidableEq, Repr

/-- A server and its clients. -/
structure Rehearsal where
  loop : EventLoop
  /-- Whether the network lets clients reach the server. -/
  reachable : Bool
  running : Bool := true
  clients : List (String × Client) := []
  /-- How many handles on the store are kept from the workers. -/
  held : Nat := 0

/-- What a client does, or what is done to the server. -/
inductive Step where
  | connect (client : String)
  | send (client : String) (data : Bytes)
  /-- The client reads one response. -/
  | reply (client : String)
  /-- The client reads until the server closes. -/
  | readAll (client : String)
  | isQuiet (client : String)
  /-- The client closes its sending half. -/
  | finish (client : String)
  | close (client : String)
  /-- The client closes and lets the server know by a failure. -/
  | abort (client : String)
  | hasActive (count : Nat)
  /-- A handle on the store is kept from the workers. -/
  | hold
  /-- All handles are given back. -/
  | release
  | tick
  | rest
  | rows
  | stop

/-- What comes of a step. -/
inductive Answer where
  | nothing
  | connected
  | refused
  | noClient
  | reply (r : Http.Reply) (extra : Bytes)
  | closed (received : Bytes)
  | waiting (received : Bytes)
  | flag (b : Bool)
  | notQuiet (isOpen : Bool) (received : Bytes)
  | rows (rs : List (String × String))
  | stopped
  | notRunning

namespace Rehearsal

/-! ## Letting the server run -/

/-- Lets the server do everything it can. -/
def settle (h : Rehearsal) : Rehearsal :=
  { h with loop := h.loop.settle 0 (h.held < h.loop.handles.length) }

/-! ## Clients -/

/-- Where all clients are. -/
def clientAddress : Net.SocketAddress := { ip := .v4 [127, 0, 0, 1], port := 40000 }

/-- Everything a client has been sent. -/
def sent (h : Rehearsal) : Link → Bytes
  | .turnedAway words => words
  | .connection id => ((h.loop.connections[id]?).map fun c => c.stream.written).getD []

/-- Whether the server has closed a connection. -/
def isClosed (h : Rehearsal) : Link → Bool
  | .turnedAway _ => true
  | .connection id => h.loop.closed.any fun c => c.1 = id

/-- What a client has been sent and has not received yet. -/
def unseen (h : Rehearsal) (c : Client) : Bytes := (h.sent c.link).drop c.seen

/-- Puts a client in the place of the one that had its name. -/
def setClient (h : Rehearsal) (name : String) (c : Client) : Rehearsal :=
  { h with clients := (name, c) :: h.clients.filter (·.1 != name) }

/-- Notes that a client has received everything it was sent. -/
def receive (h : Rehearsal) (name : String) (c : Client) : Rehearsal :=
  h.setClient name { c with seen := (h.sent c.link).length }

/-- Connects a client. -/
def connect (h : Rehearsal) (name : String) : Answer × Rehearsal :=
  if h.running && h.reachable then
    let link :=
      if h.loop.isFull then .turnedAway busyText
      else .connection h.loop.connections.length
    let loop := h.loop.attempt (.accept 0 clientAddress {})
    (.connected, ({ h with loop }.setClient name { link }).settle)
  else (.refused, h)

/-- Delivers something on a client's connection. -/
def deliver (h : Rehearsal) (c : Client) (d : Delivery) : Rehearsal :=
  match c.link with
  | .connection id => { h with loop := h.loop.attempt (.arrive id [d]) }.settle
  | .turnedAway _ => h

/-- Lets the server know that a client's socket has failed. -/
def fail (h : Rehearsal) (c : Client) : Rehearsal :=
  match c.link with
  | .turnedAway _ => h
  | .connection id => { h with loop := h.loop.hangUp 0 id }.settle

/-- Stops the server. -/
def stop (h : Rehearsal) : Answer × Rehearsal :=
  if h.running then
    let loop := h.loop.shutdown.getD h.loop
    (.stopped, { h with loop, running := false, held := 0 })
  else (.notRunning, h)

/-- What a client that is there does. -/
def clientStep (h : Rehearsal) (name : String) (c : Client) : Step → Answer × Rehearsal
  | .send _ data => (.nothing, h.deliver c (.data data))
  | .finish _ => (.nothing, h.deliver c (.data []))
  | .close _ =>
    let h := h.deliver c (.data [])
    (.flag true, { h with clients := h.clients.filter (·.1 != name) })
  | .abort _ =>
    let h := h.fail c
    (.nothing, { h with clients := h.clients.filter (·.1 != name) })
  | .reply _ =>
    let bytes := h.unseen c
    match Http.Reply.read? bytes with
    | some (r, extra) => (.reply r extra, h.receive name c)
    | none => (if h.isClosed c.link then .closed bytes else .waiting bytes, h.receive name c)
  | .readAll _ =>
    let bytes := h.unseen c
    (if h.isClosed c.link then .closed bytes else .waiting bytes, h.receive name c)
  | .isQuiet _ =>
    let bytes := h.unseen c
    let isOpen := !h.isClosed c.link
    if bytes.isEmpty && isOpen then (.flag true, h)
    else (.notQuiet isOpen bytes, h.receive name c)
  | _ => (.nothing, h)

/-- The client that takes a step, if a client does. -/
def actor? : Step → Option String
  | .send name _ | .reply name | .readAll name | .isQuiet name | .finish name | .close name
  | .abort name => some name
  | _ => none

/-- One step. -/
def step (h : Rehearsal) (s : Step) : Answer × Rehearsal :=
  match actor? s with
  | some name =>
    match h.clients.lookup name, s with
    | some c, s => h.clientStep name c s
    | none, .close _ => (.flag false, h)
    | none, _ => (.noClient, h)
  | none =>
    match s with
    | .connect name => h.connect name
    | .hasActive count => (.flag (h.loop.openCount = count), h)
    | .hold => (.nothing, { h with held := h.held + 1 })
    | .release => (.nothing, { h with held := 0 }.settle)
    | .tick => (.nothing, { h with loop := h.loop.attempt (.tick 0) }.settle)
    | .rows => (.rows h.loop.storage.table.rows, h)
    | .stop => h.stop
    | _ => (.nothing, h)

end Rehearsal
end Server
end SiteServer
