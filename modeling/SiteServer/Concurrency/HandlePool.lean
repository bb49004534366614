import SiteServer.Concurrency.Semaphore

/-!
# Pools of handles

A fixed set of handles that are checked out one at a time.  A permit is taken
before a handle, and given back after it, so that a thread that has a permit always
finds a handle.  The permits are behind one lock and the handles behind another;
each critical section is an event of its own, and other threads may come in
between any two of them.

A thread may ask for a permit in any of the ways that a semaphore knows.  One that has
it takes a handle into a guard.  A guard that is dropped lets go of its handle, which is
then on its way back: first it is put back among the others, and then the permit is given
back.

The handle returned last is handed out first.
-/

namespace SiteServer

/-- A handle.  Handles are told apart by their numbers, whatever they hold. -/
structure Handle (α : Type) where
  number : Nat
  content : α
  deriving DecidableEq, Repr

/-- Handles, those in the pool and those in the hands of others.  `claims` counts
the threads that have a permit and no handle yet, `owed` those that have put a
handle back and not yet the permit. -/
structure HandlePool (α : Type) where
  idle : List (Handle α)
  permits : Semaphore
  size : Nat
  claims : Nat := 0
  owed : Nat := 0
  /-- The guards, by number, and what each holds. -/
  held : List (Nat × Option (Handle α)) := []
  /-- What guards have let go of that has not been put back, by the number of the guard. -/
  returning : List (Nat × Handle α) := []
  deriving DecidableEq, Repr

namespace HandlePool

variable {α : Type}

/-- Handles with these contents, numbered in their order. -/
def numbered (contents : List α) : List (Handle α) :=
  contents.zipIdx.map fun (content, number) => ⟨number, content⟩

/-- A pool of handles with these contents.  The last of them is handed out first. -/
def ofHandles (contents : List α) : HandlePool α where
  idle := (numbered contents).reverse
  permits := .ofPermits contents.length
  size := contents.length

/-- How many handles are in the pool. -/
def available (p : HandlePool α) : Nat := p.idle.length

/-- One critical section, or what a thread does by itself between two of them. -/
inductive Event (α : Type) where
  /-- A thread asks for a permit, or goes on asking. -/
  | ask (e : Semaphore.Event)
  /-- A thread with a permit takes a handle into a new guard. -/
  | takeHandle (guard : Nat)
  /-- A guard is dropped and lets go of its handle, as it is now. -/
  | drop (guard : Nat)
  /-- The handle that a guard has let go of is put back. -/
  | putBack (guard : Nat)
  /-- A thread that has put a handle back gives back the permit. -/
  | giveBack
  /-- What the handle in a guard holds is changed. -/
  | change (guard : Nat) (content : α)
  deriving DecidableEq, Repr

/-- Whether what a handle holds is changed. -/
def Event.isChange : Event α → Bool
  | change _ _ => true
  | _ => false

/-- The handle in a guard. -/
def handle? (p : HandlePool α) (guard : Nat) : Option (Handle α) := (p.held.lookup guard).join

/-- What the handle in a guard holds. -/
def holding? (p : HandlePool α) (guard : Nat) : Option α := (p.handle? guard).map Handle.content

/-- Whether a guard has this number. -/
def isOf {β : Type} (guard : Nat) (g : Nat × β) : Bool := g.1 = guard

/-- A thread asks for a permit.  Nobody gives one back but who has put back a handle. -/
def ask (p : HandlePool α) : Semaphore.Event → Option (HandlePool α)
  | .release _ => none
  | e => (p.permits.step e).map fun (outcome, permits) =>
    { p with permits, claims := if outcome = .granted then p.claims + 1 else p.claims }

/-- A thread with a permit takes the first handle.  If there were none its guard would be
empty. -/
def checkOut (p : HandlePool α) (guard : Nat) : HandlePool α :=
  match p.idle with
  | [] => { p with claims := p.claims - 1, held := (guard, none) :: p.held }
  | h :: idle => { p with idle, claims := p.claims - 1, held := (guard, some h) :: p.held }

/-- One event, unless the pool is not ready for it. -/
def step (p : HandlePool α) : Event α → Option (HandlePool α)
  | .ask e => p.ask e
  | .takeHandle guard =>
    if p.claims = 0 || p.held.any (isOf guard) then none else some (p.checkOut guard)
  | .drop guard =>
    match p.held.lookup guard with
    | none => none
    | some none => some { p with held := p.held.eraseP (isOf guard) }
    | some (some h) =>
      some { p with
        held := p.held.eraseP (isOf guard)
        returning := (guard, h) :: p.returning }
  | .putBack guard =>
    match p.returning.lookup guard with
    | none => none
    | some h =>
      some { p with
        idle := h :: p.idle
        returning := p.returning.eraseP (isOf guard)
        owed := p.owed + 1 }
  | .giveBack =>
    if p.owed = 0 then none else some { p with permits := p.permits.release 1, owed := p.owed - 1 }
  | .change guard content =>
    match p.handle? guard with
    | none => none
    | some h =>
      some { p with held := (guard, some { h with content }) :: p.held.eraseP (isOf guard) }

/-- A run of events, as far as the pool is ready for them. -/
def run (p : HandlePool α) : List (Event α) → Option (HandlePool α)
  | [] => some p
  | e :: events => (p.step e).bind fun p => p.run events

/-- Checks a handle out into a guard, if there is one. -/
def acquire? (p : HandlePool α) (guard : Nat) : Option (HandlePool α) :=
  p.run [.ask .tryAcquire, .takeHandle guard]

/-- Drops a guard, which puts its handle back. -/
def release? (p : HandlePool α) (guard : Nat) : Option (HandlePool α) :=
  p.run [.drop guard, .putBack guard, .giveBack]

/-! ## Where handles are -/

/-- The handles in guards. -/
def inGuards (p : HandlePool α) : List (Handle α) := p.held.filterMap (·.2)

/-- The handles on their way back. -/
def inTransit (p : HandlePool α) : List (Handle α) := p.returning.map (·.2)

/-- All handles, wherever they are. -/
def everywhere (p : HandlePool α) : List (Handle α) := p.idle ++ p.inGuards ++ p.inTransit

end HandlePool
end SiteServer
