/-!
# Counting semaphores

A number of permits behind a lock, and the threads that wait for one.  Every
critical section is one event, and a run is any sequence of events, so that the
order in which threads come to the lock is as free here as it is in a program:
newcomers may take a permit ahead of a thread that has been woken, a sleeper may
wake without being called, and one that waits for a limited time may run out of it.

A woken thread is no longer asleep but has not yet been back at the lock.
-/

namespace SiteServer

/-- A thread that waits for a permit. -/
structure Waiter where
  id : Nat
  /-- Whether it waits for a limited time only. -/
  timed : Bool
  deriving DecidableEq, Repr

/-- Permits, and the threads that wait for one, the longest asleep in front. -/
structure Semaphore where
  permits : Nat
  sleeping : List Waiter := []
  woken : List Waiter := []
  deriving DecidableEq, Repr

namespace Semaphore

/-- One critical section. -/
inductive Event where
  /-- A thread takes a permit if there is one and does not wait. -/
  | tryAcquire
  /-- A thread comes to take a permit and goes to sleep if there is none. -/
  | arrive (w : Waiter)
  /-- A thread that was woken is back at the lock. -/
  | resume (w : Waiter)
  /-- A sleeper wakes without having been called. -/
  | stir (w : Waiter)
  /-- A sleeper's time is over. -/
  | expire (w : Waiter)
  /-- Permits are added, and as many sleepers are woken. -/
  | release (count : Nat)
  deriving DecidableEq, Repr

/-- What a critical section comes to for the thread in it. -/
inductive Outcome where
  | granted
  | refused
  | asleep
  | released
  deriving DecidableEq, Repr

/-- A semaphore with so many permits. -/
def ofPermits (permits : Nat) : Semaphore := { permits }

/-- Takes a permit, or goes to sleep. -/
def takeOrSleep (s : Semaphore) (w : Waiter) : Outcome × Semaphore :=
  if s.permits = 0 then (.asleep, { s with sleeping := s.sleeping ++ [w] })
  else (.granted, { s with permits := s.permits - 1 })

/-- Takes a permit, or gives up. -/
def takeOrLeave (s : Semaphore) : Outcome × Semaphore :=
  if s.permits = 0 then (.refused, s)
  else (.granted, { s with permits := s.permits - 1 })

/-- Adds permits and wakes as many sleepers, the longest asleep first. -/
def release (s : Semaphore) (count : Nat) : Semaphore where
  permits := s.permits + count
  sleeping := s.sleeping.drop count
  woken := s.woken ++ s.sleeping.take count

/-- One event, unless the thread it names is not where the event needs it. -/
def step (s : Semaphore) : Event → Option (Outcome × Semaphore)
  | .tryAcquire => some s.takeOrLeave
  | .arrive w => some (s.takeOrSleep w)
  | .resume w =>
    if w ∈ s.woken then some ({ s with woken := s.woken.erase w }.takeOrSleep w) else none
  | .stir w =>
    if w ∈ s.sleeping then some ({ s with sleeping := s.sleeping.erase w }.takeOrSleep w)
    else none
  | .expire w =>
    if w ∈ s.sleeping ∧ w.timed then
      some { s with sleeping := s.sleeping.erase w }.takeOrLeave
    else none
  | .release count => some (.released, s.release count)

/-! ## Letting threads run on -/

/-- Lets so many woken threads come to the lock, and says which were granted a
permit. -/
def resumeAll (s : Semaphore) : Nat → List Waiter × Semaphore
  | 0 => ([], s)
  | n + 1 =>
    match s.woken with
    | [] => ([], s)
    | w :: rest =>
      match { s with woken := rest }.takeOrSleep w with
      | (.granted, s) =>
        let (ws, s) := s.resumeAll n
        (w :: ws, s)
      | (_, s) => s.resumeAll n

/-- Lets every woken thread come to the lock. -/
def settle (s : Semaphore) : List Waiter × Semaphore := s.resumeAll s.woken.length

/-- Lets the time of every sleeper that has one run out, and says which gave up. -/
def expireAll (s : Semaphore) : List Waiter × Semaphore :=
  (s.sleeping.filter (·.timed), { s with sleeping := s.sleeping.filter fun w => !w.timed })

end Semaphore
end SiteServer
