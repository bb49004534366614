import SiteServer.DeadlineList.Agenda
import SiteServer.DeadlineList.Basic

/-!
# Ledgers and diaries

What is done to a list of deadlines, one deed after another, and what it answers.  A deed
names an entry by how many were added before it, whether the entry is still there or not.

A ledger carries out deeds with a list: it keeps the handles that the list has given out,
and looks them up.  A diary carries them out with an agenda, which needs no handles.
-/

namespace SiteServer

/-- Something done to a list of deadlines. -/
inductive Deed (α : Type) where
  /-- An entry is added. -/
  | insert (deadline : Nat) (payload : α)
  /-- An entry is given another deadline. -/
  | reschedule (entry deadline : Nat)
  | remove (entry : Nat)
  /-- Everything that is due is taken out. -/
  | tick (now : Nat)
  deriving DecidableEq, Repr

/-- What is answered to a deed. -/
inductive Reply (α : Type) where
  | added
  /-- Whether the entry was still there. -/
  | moved (found : Bool)
  /-- The payload of the entry, if it was still there. -/
  | removed (payload : Option α)
  /-- The payloads of what was due, in order. -/
  | fired (payloads : List α)
  deriving DecidableEq, Repr

namespace Deed

variable {α : Type}

/-- Whether a deed adds an entry. -/
def isInsert : Deed α → Bool
  | insert _ _ => true
  | _ => false

/-- How many entries some deeds add. -/
def insertions (deeds : List (Deed α)) : Nat := deeds.countP isInsert

/-- Whether a deed, with so many entries added before it, sets the deadline of an entry. -/
def Sets (count : Nat) (entry : Nat) : Deed α → Prop
  | insert _ _ => entry = count
  | reschedule other _ => entry = other
  | _ => False

/-- Whether the deed in this place is the last that sets the deadline of an entry. -/
def LastSet (deeds : List (Deed α)) (place entry : Nat) : Prop :=
  (∃ deed, deeds[place]? = some deed ∧ deed.Sets (insertions (deeds.take place)) entry) ∧
    ∀ later deed, place < later → deeds[later]? = some deed →
      ¬deed.Sets (insertions (deeds.take later)) entry

/-- Whether an entry has the earlier deadline, or the same one and it was set before. -/
def Sooner (deeds : List (Deed α)) (a b : Appointment Nat α) : Prop :=
  a.deadline < b.deadline ∨
    a.deadline = b.deadline ∧
      ∃ place later, place < later ∧ LastSet deeds place a.id ∧ LastSet deeds later b.id

end Deed

/-! ## With a list -/

namespace DeadlineList

variable {α : Type}

/-- The entries from a slot on, each under its handle, or `none` if they do not come to an
end within `steps` steps. -/
def entriesFrom (l : DeadlineList α) : Nat → Option Nat → Option (Agenda DeadlineId α)
  | _, none => some []
  | 0, some _ => none
  | steps + 1, some i =>
    match l.slots[i]? with
    | some ⟨generation, some n⟩ =>
      (l.entriesFrom steps n.after).map (⟨⟨i, generation⟩, n.deadline, n.payload⟩ :: ·)
    | _ => none

/-- The entries from the head on, each under its handle. -/
def entries (l : DeadlineList α) : Option (Agenda DeadlineId α) :=
  l.entriesFrom l.slots.length l.head

end DeadlineList

/-- A list of deadlines, and every handle that it has given out. -/
structure Ledger (α : Type) where
  list : DeadlineList α := .empty
  ids : List DeadlineId := []
  deriving DecidableEq, Repr

namespace Ledger

variable {α : Type}

/-- Carries out a deed. -/
def perform (s : Ledger α) : Deed α → Option (Reply α × Ledger α)
  | .insert deadline payload =>
    (s.list.insert deadline payload).map fun (id, list) => (.added, ⟨list, s.ids ++ [id]⟩)
  | .reschedule entry deadline =>
    match s.ids[entry]? with
    | some id =>
      (s.list.reschedule id deadline).map fun (found, list) => (.moved found, { s with list })
    | none => some (.moved false, s)
  | .remove entry =>
    match s.ids[entry]? with
    | some id => (s.list.remove id).map fun (payload, list) => (.removed payload, { s with list })
    | none => some (.removed none, s)
  | .tick now =>
    (s.list.takeDue now).map fun (payloads, list) => (.fired payloads, { s with list })

/-- Carries out deeds one after another. -/
def run (s : Ledger α) : List (Deed α) → Option (List (Reply α) × Ledger α)
  | [] => some ([], s)
  | deed :: deeds => do
    let (reply, s) ← s.perform deed
    let (replies, s) ← s.run deeds
    return (reply :: replies, s)

end Ledger

/-! ## With an agenda -/

/-- An agenda, and how many entries were ever added to it. -/
structure Diary (α : Type) where
  agenda : Agenda Nat α := []
  count : Nat := 0
  deriving DecidableEq, Repr

namespace Diary

variable {α : Type}

/-- Carries out a deed. -/
def perform (s : Diary α) : Deed α → Reply α × Diary α
  | .insert deadline payload =>
    (.added, ⟨s.agenda.insert ⟨s.count, deadline, payload⟩, s.count + 1⟩)
  | .reschedule entry deadline =>
    (.moved (s.agenda.find? entry).isSome, { s with agenda := s.agenda.reschedule entry deadline })
  | .remove entry =>
    (.removed ((s.agenda.find? entry).map (·.payload)),
      { s with agenda := s.agenda.erase entry })
  | .tick now =>
    (.fired ((s.agenda.due now).map (·.payload)), { s with agenda := s.agenda.afterTick now })

/-- Carries out deeds one after another. -/
def run (s : Diary α) : List (Deed α) → List (Reply α) × Diary α
  | [] => ([], s)
  | deed :: deeds =>
    let (reply, s) := s.perform deed
    let (replies, s) := s.run deeds
    (reply :: replies, s)

end Diary
end SiteServer
