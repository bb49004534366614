import SiteServer.Server.Run

/-!
# Rounds

One way for a server to get on: the loop looks at every socket that is ready, the workers
take jobs and answer them, and the loop takes their messages.  A round is made of events
like any other run, and a server settles when rounds have nothing left to do.
-/

namespace SiteServer
namespace Server
namespace EventLoop

/-- An event, if it can happen. -/
def attempt (r : EventLoop) (e : Event) : EventLoop := (r.step e).getD r

/-- Events one after another, each if it can happen. -/
def attemptAll (r : EventLoop) (es : List Event) : EventLoop := es.foldl attempt r

/-- The notice about the socket of the connection in a slot, if it is ready for what the
slot waits for.  A socket takes whatever is written to it. -/
def ready? (r : EventLoop) (key : Nat) : Option Notice := do
  let slot ← r.slots.get? key
  let c ← r.connections[slot.id]?
  match slot.awaits with
  | some .read =>
    if c.stream.arriving.isEmpty then none
    else some { key, source := slot.id, readable := true }
  | some .write => some { key, source := slot.id, writable := true }
  | none => none

/-- The notices about all sockets that are ready. -/
def notices (r : EventLoop) : List Notice := r.slots.keys.filterMap r.ready?

/-- The loop is told that the socket of a connection has failed. -/
def hangUp (r : EventLoop) (now id : Nat) : EventLoop :=
  let about := r.slots.keys.filterMap fun key => do
    let slot ← r.slots.get? key
    if slot.id = id then some { key, source := id, hangUp := true : Notice } else none
  r.attemptAll [.poll about, .heed now]

/-- The loop's part of a round: every socket that is ready. -/
def serveSockets (r : EventLoop) (now : Nat) : EventLoop :=
  let batch := r.notices
  let r := r.attemptAll (.poll batch :: batch.map fun _ => .heed now)
  r.attemptAll (List.replicate r.pool.owed .post)

/-- A worker takes a job. -/
def takeJob (r : EventLoop) (worker : Nat) : EventLoop :=
  r.attemptAll [.take worker, .test worker, .pop worker]

/-- A worker answers the request on the connection in its hands. -/
def doJob (r : EventLoop) (worker : Nat) : EventLoop :=
  r.attemptAll [.process worker 0, .send worker]

/-- The file that a worker needs to answer the request on the connection in its hands. -/
def wanted? (r : EventLoop) (worker : Nat) : Option String := do
  let backend ← r.handles[0]?
  match ← r.pool.workers[worker]? with
  | .handling ⟨t, none⟩ =>
    let c ← r.connections[t.id]?
    c.wanted? r.service ⟨r.credentials, backend, r.storage⟩
  | _ => none

/-- The numbers of the workers. -/
def workerNumbers (r : EventLoop) : List Nat := List.range r.pool.workers.length

/-- The workers' part of a round.  They answer nothing unless there is a free handle. -/
def serveJobs (r : EventLoop) (free : Bool) : EventLoop :=
  r.workerNumbers.foldl (fun r w => if free then (r.takeJob w).doJob w else r.takeJob w) r

/-- The end of a round: messages from workers and the backlog. -/
def collect (r : EventLoop) : EventLoop :=
  let r := r.attemptAll (List.replicate r.messages.length .hear)
  let r := r.attemptAll (List.replicate r.backlog.length .offer)
  r.attemptAll (List.replicate r.pool.owed .post)

/-- One round. -/
def round (r : EventLoop) (now : Nat) (free : Bool) : EventLoop :=
  ((r.serveSockets now).serveJobs free).collect

/-- Whether a worker could do something. -/
def isWorking (r : EventLoop) (free : Bool) : Bool :=
  r.pool.workers.any fun
    | .waiting => !r.pool.queue.isEmpty
    | .handling _ => free
    | _ => false

/-- Whether another round could do something. -/
def isBusy (r : EventLoop) (free : Bool) : Bool :=
  !r.notices.isEmpty || !r.messages.isEmpty || r.isWorking free

/-- So many rounds, or until nothing is left to do. -/
def rounds (now : Nat) (free : Bool) : Nat → EventLoop → EventLoop
  | 0, r => r
  | n + 1, r => if r.isBusy free then rounds now free n (r.round now free) else r

/-- The octets and marks that are still to be read. -/
def pending (r : EventLoop) : Nat :=
  (r.connections.flatMap (·.stream.arriving)).foldl (fun n d =>
    match d with
    | .data bytes => n + bytes.length + 1
    | .fault _ => n + 1) 0

/-- Lets the server do everything it can. -/
def settle (r : EventLoop) (now : Nat) (free : Bool) : EventLoop :=
  rounds now free (4 * (r.pending + r.slots.size + r.pool.queue.length + 1))
    (r.round now free)

end EventLoop
end Server
end SiteServer
