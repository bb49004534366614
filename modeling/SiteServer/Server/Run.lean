import SiteServer.Server.EventLoop

/-!
# Runs of the event loop

What can happen to a server, one step after another: the loop's thread, each worker and
the world outside take steps in any order.  The loop looks for notices only when it has
none left, and what it is told is about sockets that are open then; between two notices
of one batch it may accept clients and take messages, as they are announced in the same
batch.

`Reachable r s` says that the server can come from `r` to `s`, and `EventLoop.run` follows
one list of events.
-/

namespace SiteServer
namespace Server

/-- A step of the loop, of a worker, or of the world outside. -/
inductive Event where
  /-- Octets arrive for a connection. -/
  | arrive (id : Nat) (deliveries : List Delivery)
  /-- It turns out how much the next writes to a connection will take. -/
  | expect (id : Nat) (acceptances : List Acceptance)
  /-- From now on the machine will not watch the sockets of these connections when it is
  asked to. -/
  | refuse (ids : List Nat)
  /-- The loop is told which sockets are ready. -/
  | poll (batch : List Notice)
  /-- The loop looks at a notice. -/
  | heed (now : Nat)
  /-- A client is accepted or turned away. -/
  | accept (now : Nat) (peer : Net.SocketAddress) (stream : Stream)
  /-- The loop looks at the first connection of the backlog. -/
  | offer
  /-- The loop takes a message from a worker. -/
  | hear
  | tick (now : Nat)
  /-- The permit for a job in the queue is added. -/
  | post
  /-- A worker takes a permit. -/
  | take (worker : Nat)
  /-- A worker sees that it need not leave. -/
  | test (worker : Nat)
  /-- A worker takes a job. -/
  | pop (worker : Nat)
  /-- A worker answers a request. -/
  | process (worker handle : Nat)
  /-- A worker tells that it is done. -/
  | send (worker : Nat)

namespace Event

/-- The reading of the clock at an event, if the loop looks at the clock. -/
def time? : Event → Option Nat
  | heed now | accept now _ _ | tick now => some now
  | _ => none

end Event

namespace EventLoop

/-- Whether a notice is about the connection that has its slot now. -/
def isAbout (r : EventLoop) (n : Notice) : Bool := (r.slot? ⟨n.key, n.source⟩).isSome

/-- Changes the stream of a connection. -/
def updateStream (r : EventLoop) (id : Nat) (f : Stream → Stream) : EventLoop :=
  match r.connections[id]? with
  | some c => r.setConnection id { c with stream := f c.stream }
  | none => r

/-- A step of a worker towards a job. -/
def poolStep (r : EventLoop) (e : WorkerPool.Event Job) : Option EventLoop :=
  (r.pool.step e).map fun pool => { r with pool }

/-- One event, unless it cannot happen. -/
def step (r : EventLoop) : Event → Option EventLoop
  | .arrive id deliveries => some (r.updateStream id (·.deliver deliveries))
  | .expect id acceptances => some (r.updateStream id (·.expect acceptances))
  | .refuse ids => some { r with unwatched := ids }
  | .poll batch =>
    if r.batch.isEmpty && batch.all r.isAbout then some { r with batch } else none
  | .heed now =>
    match r.batch with
    | [] => none
    | n :: batch => { r with batch }.heed now n
  | .accept now peer stream => r.accept now peer stream
  | .offer => r.offerFirst.map Prod.fst
  | .hear => r.hearFirst
  | .tick now => r.tick now
  | .post => r.poolStep .post
  | .take worker => r.poolStep (.take worker)
  | .test worker => r.poolStep (.test worker)
  | .pop worker => r.poolStep (.pop worker)
  | .process worker handle => r.process worker handle
  | .send worker => r.send worker

/-- A run of events, as far as they can happen. -/
def run (r : EventLoop) : List Event → Option EventLoop
  | [] => some r
  | e :: events => (r.step e).bind fun r => r.run events

theorem run_append (r : EventLoop) (es fs : List Event) :
    r.run (es ++ fs) = (r.run es).bind fun s => s.run fs := by
  induction es generalizing r with
  | nil => rfl
  | cons e es ih =>
    simp only [List.cons_append, run]
    cases r.step e with
    | none => rfl
    | some s => exact ih s

/-- A run that can be followed to its end ends with its last event. -/
theorem run_concat_eq_some {r r' : EventLoop} {es : List Event} {e : Event}
    (h : r.run (es ++ [e]) = some r') : ∃ s, r.run es = some s ∧ s.step e = some r' := by
  rw [run_append] at h
  obtain ⟨s, hes, h⟩ := Option.bind_eq_some_iff.mp h
  obtain ⟨_, hstep, h⟩ := Option.bind_eq_some_iff.mp h
  obtain rfl := Option.some.inj h
  exact ⟨s, hes, hstep⟩

end EventLoop

/-- Whether a server can come from one state to another. -/
def Reachable (r s : EventLoop) : Prop := ∃ events, r.run events = some s

theorem Reachable.refl (r : EventLoop) : Reachable r r := ⟨[], rfl⟩

theorem Reachable.step {r s t : EventLoop} {e : Event} (h : Reachable r s)
    (hs : s.step e = some t) : Reachable r t := by
  obtain ⟨es, he⟩ := h
  exact ⟨es ++ [e], by rw [EventLoop.run_append, he]; simp [EventLoop.run, hs]⟩

theorem Reachable.trans {r s t : EventLoop} (h : Reachable r s) (h' : Reachable s t) :
    Reachable r t := by
  obtain ⟨es, he⟩ := h
  obtain ⟨fs, hf⟩ := h'
  exact ⟨es ++ fs, by rw [EventLoop.run_append, he]; exact hf⟩

/-- Whatever a state and all states after it have in common all reachable states
have. -/
theorem Reachable.induction {P : EventLoop → Prop} {r : EventLoop} (start : P r)
    (kept : ∀ s e t, P s → EventLoop.step s e = some t → P t) {s : EventLoop}
    (h : Reachable r s) : P s := by
  obtain ⟨es, he⟩ := h
  induction es generalizing r with
  | nil => cases he; exact start
  | cons e es ih =>
    simp only [EventLoop.run, Option.bind_eq_some_iff] at he
    obtain ⟨t, ht, he⟩ := he
    exact ih (kept _ _ _ start ht) he

end Server
end SiteServer
