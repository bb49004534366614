import SiteServer.DeadlineList.Basic

/-!
# The way through a list of deadlines

What is met when the links of a list are followed from one of its ends, and what may be done to a
list by somebody who has any handles, whether they refer to entries or not.
-/

namespace SiteServer
namespace DeadlineList

variable {α : Type}

/-! ## Following links -/

/-- The slots on the way from a slot on, or `none` if it leads to a slot without an entry, or does
not end within so many steps. -/
def wayFrom (l : DeadlineList α) (link : Node α → Option Nat) : Nat → Option Nat → Option (List Nat)
  | _, none => some []
  | 0, some _ => none
  | steps + 1, some i => do
    let n ← l.node? i
    let rest ← l.wayFrom link steps (link n)
    return i :: rest

/-- The slots on the way from the head, each entry followed by the one after it. -/
def way (l : DeadlineList α) : Option (List Nat) := l.wayFrom (·.after) l.slots.length l.head

/-- The slots on the way from the tail, each entry followed by the one before it. -/
def wayBack (l : DeadlineList α) : Option (List Nat) :=
  l.wayFrom (·.before) l.slots.length l.tail

/-! ## Whatever is done -/

/-- Something done to a list.  A handle may refer to an entry, to none any more, or never have been
given out. -/
inductive Operation (α : Type) where
  | insert (deadline : Nat) (payload : α)
  | reschedule (id : DeadlineId) (deadline : Nat)
  | remove (id : DeadlineId)
  /-- Everything that is due is taken out. -/
  | takeDue (now : Nat)
  deriving DecidableEq, Repr

/-- Whether an operation adds an entry. -/
def Operation.isInsert : Operation α → Bool
  | .insert _ _ => true
  | _ => false

/-- How many entries some operations add. -/
def insertions (operations : List (Operation α)) : Nat := operations.countP Operation.isInsert

/-- The list after an operation. -/
def apply (l : DeadlineList α) : Operation α → Option (DeadlineList α)
  | .insert deadline payload => (l.insert deadline payload).map Prod.snd
  | .reschedule id deadline => (l.reschedule id deadline).map Prod.snd
  | .remove id => (l.remove id).map Prod.snd
  | .takeDue now => (l.takeDue now).map Prod.snd

/-- The list after some operations. -/
def applyAll (l : DeadlineList α) : List (Operation α) → Option (DeadlineList α)
  | [] => some l
  | operation :: operations => do
    let l ← l.apply operation
    l.applyAll operations

end DeadlineList
end SiteServer
