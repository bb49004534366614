/-!
# Worker pools

A bounded queue of jobs and a fixed number of workers.  Handing in a job never
blocks: a full queue hands it back.  A permit stands for each job that waits, and a
worker takes a permit before it looks into the queue.  To stop, a flag is set and
one more permit is added for each worker; a worker that finds the flag set after
taking a permit leaves.

Handing in a job is two critical sections, the queue first and the permit second;
taking one is four steps, between any two of which others may come in.  Any number of
threads may be handing in jobs, each of them between its two sections or outside both.
-/

namespace SiteServer
namespace WorkerPool

/-- Where a worker is. -/
inductive Phase (J : Type) where
  /-- Waiting for a permit. -/
  | waiting
  /-- It has taken a permit and has not yet looked at the flag. -/
  | permitted
  /-- It has seen the flag not set and has not yet looked into the queue. -/
  | cleared
  | handling (job : J)
  | exited
  deriving DecidableEq, Repr

end WorkerPool

/-- A queue and its workers.  `owed` counts the threads that have put a job into the
queue and have not yet added its permit; `finished` holds the jobs that were done, the
last in front. -/
structure WorkerPool (J : Type) where
  capacity : Nat
  queue : List J := []
  permits : Nat := 0
  owed : Nat := 0
  stopping : Bool := false
  /-- Whether the permits that let workers leave have been added. -/
  dismissed : Bool := false
  workers : List (WorkerPool.Phase J)
  finished : List J := []
  deriving DecidableEq, Repr

namespace WorkerPool

variable {J : Type}

/-- Why there is no pool. -/
inductive Fault where
  | noWorkers
  | noCapacity
  deriving DecidableEq, Repr

/-- The wording of a fault. -/
def Fault.message : Fault → String
  | noWorkers => "worker pool needs at least one worker"
  | noCapacity => "worker queue capacity must be non-zero"

/-- A pool whose workers all wait. -/
def make (workers capacity : Nat) : Except Fault (WorkerPool J) :=
  if workers = 0 then .error .noWorkers
  else if capacity = 0 then .error .noCapacity
  else .ok { capacity, workers := List.replicate workers .waiting }

/-- Hands in a job: it is queued, or handed back if the queue is full. -/
def offer (p : WorkerPool J) (job : J) : Except J (WorkerPool J) :=
  if p.capacity ≤ p.queue.length then .error job
  else .ok { p with queue := p.queue ++ [job], owed := p.owed + 1 }

/-- One step of somebody. -/
inductive Event (J : Type) where
  /-- A job is handed in. -/
  | offer (job : J)
  /-- The permit for a job handed in before is added. -/
  | post
  /-- A worker takes a permit. -/
  | take (worker : Nat)
  /-- A worker looks at the flag. -/
  | test (worker : Nat)
  /-- A worker takes the first job of the queue, or finds none. -/
  | pop (worker : Nat)
  /-- A worker is done with its job. -/
  | finish (worker : Nat)
  /-- The flag is set. -/
  | stop
  /-- One permit is added for each worker, once the flag is set. -/
  | dismiss
  deriving DecidableEq, Repr

/-- Moves a worker to another phase. -/
def move (p : WorkerPool J) (worker : Nat) (phase : Phase J) : WorkerPool J :=
  { p with workers := p.workers.set worker phase }

/-- One event, unless the pool or the worker is not ready for it.  A job handed
back changes nothing. -/
def step (p : WorkerPool J) : Event J → Option (WorkerPool J)
  | .offer job =>
    match p.offer job with
    | .ok p => some p
    | .error _ => some p
  | .post =>
    if p.owed = 0 then none else some { p with owed := p.owed - 1, permits := p.permits + 1 }
  | .take w =>
    match p.workers[w]? with
    | some .waiting =>
      if p.permits = 0 then none
      else some ({ p with permits := p.permits - 1 }.move w .permitted)
    | _ => none
  | .test w =>
    match p.workers[w]? with
    | some .permitted => some (p.move w (if p.stopping then .exited else .cleared))
    | _ => none
  | .pop w =>
    match p.workers[w]? with
    | some .cleared =>
      match p.queue with
      | [] => some (p.move w .waiting)
      | job :: queue => some ({ p with queue }.move w (.handling job))
    | _ => none
  | .finish w =>
    match p.workers[w]? with
    | some (.handling job) => some ({ p with finished := job :: p.finished }.move w .waiting)
    | _ => none
  | .stop => if p.stopping then none else some { p with stopping := true }
  | .dismiss =>
    if p.stopping && !p.dismissed then
      some { p with permits := p.permits + p.workers.length, dismissed := true }
    else none

/-- A run of events, as far as the pool is ready for them. -/
def run (p : WorkerPool J) : List (Event J) → Option (WorkerPool J)
  | [] => some p
  | e :: events => (p.step e).bind fun p => p.run events

/-! ## What a run shows -/

/-- What an event comes to for those who hand in jobs or do them. -/
inductive Outcome (J : Type) where
  /-- The job is in the queue. -/
  | queued (job : J)
  /-- The queue was full, and the job is with its owner again. -/
  | handedBack (job : J)
  /-- A worker has taken the job. -/
  | begun (worker : Nat) (job : J)
  /-- A worker has looked for a job in vain. -/
  | missed (worker : Nat)
  /-- Nothing, so far. -/
  | silent
  deriving DecidableEq, Repr

/-- What an event comes to. -/
def outcome (p : WorkerPool J) : Event J → Outcome J
  | .offer job =>
    match p.offer job with
    | .ok _ => .queued job
    | .error job => .handedBack job
  | .pop w =>
    match p.workers[w]?, p.queue with
    | some .cleared, [] => .missed w
    | some .cleared, job :: _ => .begun w job
    | _, _ => .silent
  | _ => .silent

/-- What the events of a run come to, as far as the pool is ready for them. -/
def log (p : WorkerPool J) : List (Event J) → List (Outcome J)
  | [] => []
  | e :: events =>
    match p.step e with
    | none => []
    | some p' => p.outcome e :: p'.log events

/-- The job that was put into the queue. -/
def Outcome.accepted? : Outcome J → Option J
  | queued job => some job
  | _ => none

/-- The job that a worker has taken. -/
def Outcome.begun? : Outcome J → Option J
  | begun _ job => some job
  | _ => none

/-- The jobs that were put into the queue, in the order in which they were. -/
def accepted (log : List (Outcome J)) : List J := log.filterMap Outcome.accepted?

/-- The jobs that workers have taken, in the order in which they did. -/
def begun (log : List (Outcome J)) : List J := log.filterMap Outcome.begun?

/-- The job in the hands of a worker. -/
def Phase.job? : Phase J → Option J
  | handling job => some job
  | _ => none

/-- Whether a worker has taken a permit and not yet looked into the queue. -/
def Phase.isComing : Phase J → Bool
  | permitted | cleared => true
  | _ => false

/-- Whether a worker is about to look into the queue. -/
def Phase.isCleared : Phase J → Bool
  | cleared => true
  | _ => false

/-- The jobs in the hands of workers. -/
def inHands (p : WorkerPool J) : List J := p.workers.filterMap Phase.job?

/-- How many workers have taken a permit and not yet looked into the queue. -/
def coming (p : WorkerPool J) : Nat := p.workers.countP Phase.isComing

/-! ## Letting workers run on -/

/-- Lets one worker take the first job and keep it in its hands. -/
def grab (p : WorkerPool J) (worker : Nat) : WorkerPool J :=
  (p.run [.take worker, .test worker, .pop worker]).getD p

/-- Lets one worker finish the job in its hands. -/
def done (p : WorkerPool J) (worker : Nat) : WorkerPool J := (p.step (.finish worker)).getD p

/-- Hands in a job and posts its permit, unless it is handed back. -/
def append? (p : WorkerPool J) (job : J) : Option (WorkerPool J) :=
  (p.offer job).toOption.bind fun p => p.step .post

/-- Gives every worker a job of its own and lets it take it. -/
def occupy (p : WorkerPool J) (job : J) : WorkerPool J :=
  (List.range p.workers.length).foldl (fun p w => ((p.append? job).getD p).grab w) p

/-- Lets every worker finish what it has in its hands. -/
def finishAll (p : WorkerPool J) : WorkerPool J :=
  (List.range p.workers.length).foldl done p

/-- Lets the first worker do the jobs of the queue, so many of them. -/
def work (p : WorkerPool J) : Nat → WorkerPool J
  | 0 => p
  | n + 1 => ((p.grab 0).done 0).work n

/-- Lets the workers do everything there is to do. -/
def drain (p : WorkerPool J) : WorkerPool J :=
  let p := p.finishAll
  p.work p.queue.length

end WorkerPool
end SiteServer
