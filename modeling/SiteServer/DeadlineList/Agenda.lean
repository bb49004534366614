/-!
# Agendas

What a list of deadlines means: entries in ascending order of their deadlines, each
under a name.  An agenda has no links and no slots; its operations say in one line each
what the linked list has to do.
-/

namespace SiteServer

/-- One entry of an agenda. -/
structure Appointment (κ α : Type) where
  id : κ
  deadline : Nat
  payload : α
  deriving DecidableEq, Repr

/-- Entries in ascending order of their deadlines. -/
abbrev Agenda (κ α : Type) := List (Appointment κ α)

namespace Agenda

variable {κ α : Type}

/-- Adds an entry behind all those whose deadline is not later. -/
def insert (a : Appointment κ α) : Agenda κ α → Agenda κ α
  | [] => [a]
  | b :: rest => if a.deadline < b.deadline then a :: b :: rest else b :: insert a rest

/-- An added entry comes between those that are not later and those that are. -/
theorem insert_eq (a : Appointment κ α) (g : Agenda κ α) :
    g.insert a = g.takeWhile (fun b => b.deadline ≤ a.deadline)
      ++ a :: g.dropWhile (fun b => b.deadline ≤ a.deadline) := by
  induction g with
  | nil => rfl
  | cons b g ih =>
    by_cases hlater : a.deadline < b.deadline
    · simp [insert, hlater, Nat.not_le.mpr hlater]
    · simp [insert, hlater, Nat.not_lt.mp hlater, ih]

/-- The entries that are due. -/
def due (g : Agenda κ α) (now : Nat) : List (Appointment κ α) :=
  g.takeWhile fun a => a.deadline ≤ now

/-- The entries that are not due. -/
def afterTick (g : Agenda κ α) (now : Nat) : Agenda κ α := g.dropWhile fun a => a.deadline ≤ now

/-- The same entries under other names. -/
def rename {ι : Type} (f : κ → ι) (g : Agenda κ α) : Agenda ι α :=
  g.map fun a => ⟨f a.id, a.deadline, a.payload⟩

/-- Whether the deadlines ascend. -/
def Ascending (g : Agenda κ α) : Prop := g.Pairwise fun a b => a.deadline ≤ b.deadline

variable [DecidableEq κ]

/-- The entry of this name. -/
def find? (g : Agenda κ α) (id : κ) : Option (Appointment κ α) :=
  List.find? (fun a => a.id = id) g

/-- Removes the entry of this name. -/
def erase (g : Agenda κ α) (id : κ) : Agenda κ α := g.filter fun a => a.id ≠ id

/-- Gives an entry another deadline: removes it and adds it again. -/
def reschedule (g : Agenda κ α) (id : κ) (deadline : Nat) : Agenda κ α :=
  match g.find? id with
  | none => g
  | some a => (g.erase id).insert { a with deadline := deadline }

end Agenda
end SiteServer
