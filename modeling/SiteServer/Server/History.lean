import SiteServer.Http.Call
import SiteServer.Server.Run

/-!
# What the steps of a server do to connections

Which calls on connections each step makes, and all calls along a run in their order.  A
connection changes by these calls and by what its client does, and by nothing else: to
replay the calls is to make them again and to compare what is called with what was recorded.

A server lives until it is shut down.  After that the loop does nothing any more, while
workers may go on with what they have.
-/

namespace SiteServer

/-- Makes a call again on the connections that there are, if it finds the connection that it
was made on. -/
def Http.Call.replay? (v : Http.Service) (connections : List Http.Connection) (c : Http.Call) :
    Option (List Http.Connection) :=
  match c.kind with
  | .create =>
    if c.number = connections.length then some (connections ++ [c.before]) else none
  | _ =>
    if connections[c.number]? = some c.before then
      some (connections.set c.number (c.after v))
    else none

namespace Server

/-- Whether an event is a step of a worker, or the addition of a permit. -/
def Event.isOfWorker : Event → Bool
  | .post | .take _ | .test _ | .pop _ | .process _ _ | .send _ => true
  | _ => false

namespace EventLoop

open Http (Call)

/-- The calls that heeding a notice makes: a slot that waits to be read is read, and one
that waits to be written is written and then reset, if all was sent and the connection is
kept open. -/
def noticeCalls (r : EventLoop) (n : Notice) : List Call :=
  match r.slots.get? n.key with
  | none => []
  | some slot =>
    match n.hangUp, slot.awaits, r.connections[slot.id]? with
    | false, some .read, some c => if n.readable then [⟨slot.id, .read, c⟩] else []
    | false, some .write, some c =>
      if n.writable then
        match c.write with
        | (.done _, c') =>
          if c'.keepAlive then [⟨slot.id, .write, c⟩, ⟨slot.id, .reset, c'⟩]
          else [⟨slot.id, .write, c⟩]
        | _ => [⟨slot.id, .write, c⟩]
      else []
    | _, _, _ => []

/-- The calls that an event makes, if it can happen. -/
def calls (r : EventLoop) : Event → List Call
  | .heed _ => (r.batch.head?.map r.noticeCalls).getD []
  | .accept _ peer stream =>
    if r.isFull || r.connections.length ∈ r.unwatched then []
    else
      [⟨r.connections.length, .create, .accepted r.connections.length peer stream
        r.config.buffers.readCapacity r.config.buffers.writeCapacity⟩]
  | .process worker handle =>
    match r.handles[handle]?, r.pool.workers[worker]? with
    | some backend, some (.handling ⟨t, none⟩) =>
      match r.connections[t.id]? with
      | some c => [⟨t.id, .process ⟨r.credentials, backend, r.storage⟩, c⟩]
      | none => []
    | _, _ => []
  | _ => []

/-- The connections after what the world outside does to their streams in an event. -/
def touched (r : EventLoop) : Event → List Http.Connection
  | .arrive id deliveries => (r.updateStream id (·.deliver deliveries)).connections
  | .expect id acceptances => (r.updateStream id (·.expect acceptances)).connections
  | _ => r.connections

/-- All calls along a run of events, as far as they can happen. -/
def history (r : EventLoop) : List Event → List Call
  | [] => []
  | e :: events =>
    match r.step e with
    | none => []
    | some r' => r.calls e ++ r'.history events

/-- The calls on one connection. -/
def callsOn (id : Nat) (calls : List Call) : List Call := calls.filter fun c => c.number = id

end EventLoop

/-- A state that a server may come to in its life, with all calls on the way. -/
inductive Life (r₀ : EventLoop) : List Http.Call → EventLoop → Prop where
  | running {r : EventLoop} {events : List Event} (run : r₀.run events = some r) :
    Life r₀ (r₀.history events) r
  | stopped {r r₁ r₂ : EventLoop} {events rest : List Event} (run : r₀.run events = some r)
    (shutdown : r.shutdown = some r₁) (workers : rest.all Event.isOfWorker = true)
    (finish : r₁.run rest = some r₂) : Life r₀ (r₀.history events ++ r₁.history rest) r₂

end Server
end SiteServer
