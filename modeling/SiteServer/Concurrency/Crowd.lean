import SiteServer.Concurrency.Semaphore

/-!
# Threads on their way to the lock

Not every sleeper sleeps until it is called.  One may wake for no reason, and one that waits
for a limited time may find it over; neither is back at the lock at that moment.  Before it is,
others may come to the lock, take permits or add some, and call sleepers of whom it is no longer
one.  A semaphore's own events (`Semaphore.Event`) leave no time for that.

Here such a thread is kept apart until it is back at the lock, so that it leaves its sleep in
one move and looks at the permits in another.  A thread that was called and whose time is over
as well may be told either.  And sleepers are called in any order: they may change places at any
time.
-/

namespace SiteServer
namespace Semaphore

/-- A semaphore, and the threads that have left their sleep without having been called and are
not yet back at its lock. -/
structure Crowd where
  semaphore : Semaphore
  /-- Those that woke for no reason. -/
  stirred : List Waiter := []
  /-- Those whose time was over. -/
  late : List Waiter := []
  deriving DecidableEq, Repr

namespace Crowd

/-- What happens at the lock, or to a thread that is away from it. -/
inductive Move where
  /-- One critical section of a thread that never slept, was called, or leaves its sleep and is
  back at once. -/
  | enter (e : Event)
  /-- A sleeper wakes without having been called. -/
  | stir (w : Waiter)
  /-- A thread that woke without having been called is back at the lock. -/
  | rise (w : Waiter)
  /-- A sleeper's time is over. -/
  | lapse (w : Waiter)
  /-- A thread whose time was over is back at the lock. -/
  | giveUp (w : Waiter)
  /-- A thread that was called is back at the lock and told that its time is over. -/
  | overrun (w : Waiter)
  /-- The sleepers change places, and will be called in this order. -/
  | shuffle (order : List Waiter)
  deriving DecidableEq, Repr

/-- How many permits a move adds. -/
def Move.added : Move → Nat
  | enter (.release count) => count
  | _ => 0

/-- How many permits some moves add. -/
def added : List Move → Nat
  | [] => 0
  | m :: moves => m.added + added moves

/-- A semaphore with so many permits and nobody around. -/
def ofPermits (permits : Nat) : Crowd := { semaphore := .ofPermits permits }

/-- The crowd after a critical section. -/
def leave (c : Crowd) (r : Outcome × Semaphore) : Option Outcome × Crowd :=
  (some r.1, { c with semaphore := r.2 })

/-- One move, unless the thread it names is not where the move needs it.  Away from the lock a
move comes to nothing for its thread. -/
def step (c : Crowd) : Move → Option (Option Outcome × Crowd)
  | .enter e => (c.semaphore.step e).map c.leave
  | .stir w =>
    if w ∈ c.semaphore.sleeping then
      some (none, { c with
        semaphore := { c.semaphore with sleeping := c.semaphore.sleeping.erase w }
        stirred := w :: c.stirred })
    else none
  | .rise w =>
    if w ∈ c.stirred then
      some ({ c with stirred := c.stirred.erase w }.leave (c.semaphore.takeOrSleep w))
    else none
  | .lapse w =>
    if w ∈ c.semaphore.sleeping ∧ w.timed then
      some (none, { c with
        semaphore := { c.semaphore with sleeping := c.semaphore.sleeping.erase w }
        late := w :: c.late })
    else none
  | .giveUp w =>
    if w ∈ c.late then
      some ({ c with late := c.late.erase w }.leave c.semaphore.takeOrLeave)
    else none
  | .overrun w =>
    if w ∈ c.semaphore.woken ∧ w.timed then
      some (c.leave { c.semaphore with woken := c.semaphore.woken.erase w }.takeOrLeave)
    else none
  | .shuffle order =>
    if order.isPerm c.semaphore.sleeping then
      some (none, { c with semaphore := { c.semaphore with sleeping := order } })
    else none

/-- A run: what came of it for the threads at the lock, and what is left. -/
def run (c : Crowd) : List Move → Option (List Outcome × Crowd)
  | [] => some ([], c)
  | m :: moves => do
    let (o, c) ← c.step m
    let (os, c) ← c.run moves
    return (o.toList ++ os, c)

end Crowd
end Semaphore
end SiteServer
