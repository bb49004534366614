/-!
# Lists of deadlines

Deadlines in ascending order, each with a payload.  The entries form a doubly
linked list threaded through an arena of slots, so that an entry can be moved or
removed through its handle without a search.  A slot that has been left is used
again; each time its generation goes up by one, and a handle remembers the
generation it was given out under, so a handle that has outlived its entry refers
to nothing.

Entries with the same deadline keep the order in which their deadlines were set.

## What can go wrong

The links are plain slot numbers.  An operation that follows one to an empty slot,
or that is still following them after as many steps as there are slots, has found
the arena broken and answers `none`.  A number that refers to a live entry is the
business of the arena's invariant, not of its operations.
-/

namespace SiteServer

/-- A handle on an entry. -/
structure DeadlineId where
  index : Nat
  generation : UInt32
  deriving DecidableEq, Repr

namespace DeadlineList

/-- An entry with the slots before and after it. -/
structure Node (α : Type) where
  deadline : Nat
  payload : α
  before : Option Nat
  after : Option Nat
  deriving DecidableEq, Repr

/-- A place for an entry. -/
structure Slot (α : Type) where
  generation : UInt32
  node : Option (Node α)
  deriving DecidableEq, Repr

end DeadlineList

/-- Deadlines in ascending order. -/
structure DeadlineList (α : Type) where
  slots : List (DeadlineList.Slot α)
  /-- The empty slots, the one left last in front. -/
  free : List Nat
  head : Option Nat
  tail : Option Nat
  size : Nat
  deriving DecidableEq, Repr

namespace DeadlineList

variable {α : Type}

/-- No deadlines. -/
def empty : DeadlineList α := ⟨[], [], none, none, 0⟩

/-! ## Looking -/

/-- The entry in a slot. -/
def node? (l : DeadlineList α) (i : Nat) : Option (Node α) := (l.slots[i]?).bind (·.node)

/-- Whether the handle refers to an entry. -/
def contains (l : DeadlineList α) (id : DeadlineId) : Bool :=
  match l.slots[id.index]? with
  | some slot => slot.generation = id.generation && slot.node.isSome
  | none => false

/-- The deadline of an entry. -/
def deadline? (l : DeadlineList α) (id : DeadlineId) : Option Nat :=
  if l.contains id then (l.node? id.index).map (·.deadline) else none

/-- The entries from a slot on, or `none` if they do not come to an end within
`steps` steps. -/
def nodesFrom (l : DeadlineList α) : Nat → Option Nat → Option (List (Node α))
  | _, none => some []
  | 0, some _ => none
  | steps + 1, some i => do
    let n ← l.node? i
    let rest ← l.nodesFrom steps n.after
    return n :: rest

/-- The entries, first deadline first. -/
def nodes (l : DeadlineList α) : Option (List (Node α)) := l.nodesFrom l.slots.length l.head

/-- The deadlines, first to last. -/
def deadlines (l : DeadlineList α) : Option (List Nat) :=
  l.nodes.map fun ns => ns.map (·.deadline)

/-- The first deadline. -/
def firstDeadline? (l : DeadlineList α) : Option Nat :=
  l.head.bind fun h => (l.node? h).map (·.deadline)

/-! ## Changing links -/

/-- Changes the entry in a slot. -/
def update (l : DeadlineList α) (i : Nat) (f : Node α → Node α) : Option (DeadlineList α) :=
  match l.slots[i]? with
  | some ⟨generation, some n⟩ =>
    some { l with slots := l.slots.set i ⟨generation, some (f n)⟩ }
  | _ => none

/-- Says what comes after a slot, or what comes first if there is no slot. -/
def setAfter (l : DeadlineList α) (i next : Option Nat) : Option (DeadlineList α) :=
  match i with
  | some i => l.update i fun n => { n with after := next }
  | none => some { l with head := next }

/-- Says what comes before a slot, or what comes last if there is no slot. -/
def setBefore (l : DeadlineList α) (i prev : Option Nat) : Option (DeadlineList α) :=
  match i with
  | some i => l.update i fun n => { n with before := prev }
  | none => some { l with tail := prev }

/-- The first slot at or after `cursor` whose deadline is later than `deadline`, or no
slot if there is none. -/
def seek (l : DeadlineList α) (deadline : Nat) : Nat → Option Nat → Option (Option Nat)
  | _, none => some none
  | 0, some _ => none
  | steps + 1, some i => do
    let n ← l.node? i
    if deadline < n.deadline then return some i
    else l.seek deadline steps n.after

/-- The slot before a slot, or the last slot if there is no slot. -/
def previous? (l : DeadlineList α) : Option Nat → Option (Option Nat)
  | some i => (l.node? i).map (·.before)
  | none => some l.tail

/-- Puts an entry that is in no place into the list, in front of the first entry at
or after `start` with a later deadline, or at the end. -/
def place (l : DeadlineList α) (i : Nat) (start : Option Nat) : Option (DeadlineList α) := do
  let n ← l.node? i
  let next ← l.seek n.deadline l.slots.length start
  let prev ← l.previous? next
  let l ← l.update i fun n => { n with before := prev, after := next }
  let l ← l.setBefore next (some i)
  l.setAfter prev (some i)

/-- Takes an entry out of the list.  Its slot keeps it. -/
def unlink (l : DeadlineList α) (i : Nat) : Option (DeadlineList α) := do
  let n ← l.node? i
  let l ← l.update i fun n => { n with before := none, after := none }
  let l ← l.setAfter n.before n.after
  l.setBefore n.after n.before

/-! ## Slots -/

/-- Puts an entry into an empty slot, the one left last if there is any. -/
def occupy (l : DeadlineList α) (n : Node α) : Option (Nat × DeadlineList α) :=
  match l.free with
  | i :: free =>
    match l.slots[i]? with
    | some slot => some (i, { l with slots := l.slots.set i { slot with node := some n }, free })
    | none => none
  | [] => some (l.slots.length, { l with slots := l.slots ++ [⟨0, some n⟩] })

/-- Empties a slot and hands out what was in it. -/
def release (l : DeadlineList α) (i : Nat) : Option (Node α × DeadlineList α) :=
  match l.slots[i]? with
  | some ⟨generation, some n⟩ =>
    some (n, { l with slots := l.slots.set i ⟨generation + 1, none⟩, free := i :: l.free })
  | _ => none

/-! ## The operations -/

/-- Adds an entry behind all those whose deadline is not later. -/
def insert (l : DeadlineList α) (deadline : Nat) (payload : α) :
    Option (DeadlineId × DeadlineList α) := do
  let (i, l) ← l.occupy ⟨deadline, payload, none, none⟩
  let l ← l.place i l.head
  let slot ← l.slots[i]?
  return (⟨i, slot.generation⟩, { l with size := l.size + 1 })

/-- Whether a deadline comes before that of the entry in a slot.  It does if there is no
slot. -/
def isBefore? (l : DeadlineList α) (deadline : Nat) : Option Nat → Option Bool
  | some i => (l.node? i).map fun n => decide (deadline < n.deadline)
  | none => some true

/-- Whether a deadline does not come before that of the entry in a slot.  It does not if
there is no slot. -/
def isBehind? (l : DeadlineList α) (deadline : Nat) : Option Nat → Option Bool
  | some i => (l.node? i).map fun n => decide (n.deadline ≤ deadline)
  | none => some true

/-- Gives an entry another deadline and the place that goes with it.  The answer
says whether the handle still referred to an entry. -/
def reschedule (l : DeadlineList α) (id : DeadlineId) (deadline : Nat) :
    Option (Bool × DeadlineList α) := do
  if !l.contains id then return (false, l)
  let n ← l.node? id.index
  let l ← l.update id.index fun n => { n with deadline := deadline }
  let beforeNext ← l.isBefore? deadline n.after
  let afterPrev ← l.isBehind? deadline n.before
  if beforeNext && afterPrev then return (true, l)
  let l ← l.unlink id.index
  -- a deadline that moved back is looked for from the front
  let l ← l.place id.index (if afterPrev then n.after else l.head)
  return (true, l)

/-- Removes an entry and hands out its payload, if the handle still refers to
one. -/
def remove (l : DeadlineList α) (id : DeadlineId) : Option (Option α × DeadlineList α) := do
  if !l.contains id then return (none, l)
  let l ← l.unlink id.index
  let (n, l) ← l.release id.index
  return (some n.payload, { l with size := l.size - 1 })

/-- Removes the first entries as long as their deadlines are not after `now`. -/
def takeDueLoop (now : Nat) : Nat → DeadlineList α → Option (List α × DeadlineList α)
  | 0, l => if l.head.isNone then some ([], l) else none
  | steps + 1, l =>
    match l.head with
    | none => some ([], l)
    | some i => do
      let n ← l.node? i
      if now < n.deadline then return ([], l)
      let l ← l.unlink i
      let (n, l) ← l.release i
      let (fired, l) ← takeDueLoop now steps { l with size := l.size - 1 }
      return (n.payload :: fired, l)

/-- Removes every entry that is due and hands out their payloads in order. -/
def takeDue (l : DeadlineList α) (now : Nat) : Option (List α × DeadlineList α) :=
  takeDueLoop now l.slots.length l

end DeadlineList
end SiteServer
