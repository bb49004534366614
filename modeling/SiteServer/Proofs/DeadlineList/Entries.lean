import Mathlib.Data.List.TakeWhile
import SiteServer.Proofs.DeadlineList.Order

/-!
# The entries of an agenda

Which entries there are after each operation, and how an entry is found through its handle.
What is due comes first (`Ascending.mem_due`, `Ascending.mem_afterTick`), and no two entries
have one handle (`Represents.eq_of_id_eq`).
-/

namespace SiteServer

namespace Agenda

variable {κ α : Type} {g : Agenda κ α} {a b : Appointment κ α} {now : Nat}

/-- In ascending order everything that is due comes first. -/
theorem Ascending.mem_afterTick (h : g.Ascending) :
    b ∈ g.afterTick now ↔ b ∈ g ∧ now < b.deadline := by
  induction g with
  | nil => simp [afterTick]
  | cons c g ih =>
    obtain ⟨hc, hg⟩ := List.pairwise_cons.mp h
    by_cases hdue : c.deadline ≤ now
    · rw [afterTick, List.dropWhile_cons_of_pos (by simpa using hdue), ← afterTick, ih hg,
        List.mem_cons]
      constructor
      · rintro ⟨hb, hlater⟩
        exact ⟨Or.inr hb, hlater⟩
      · rintro ⟨rfl | hb, hlater⟩
        · omega
        · exact ⟨hb, hlater⟩
    · rw [afterTick, List.dropWhile_cons_of_neg (by simpa using hdue)]
      refine ⟨fun hb => ⟨hb, ?_⟩, fun hb => hb.1⟩
      rcases List.mem_cons.mp hb with rfl | hb
      · omega
      · have := hc b hb
        omega

theorem due_append_afterTick (g : Agenda κ α) (now : Nat) : g.due now ++ g.afterTick now = g :=
  List.takeWhile_append_dropWhile

theorem Ascending.mem_due (h : g.Ascending) :
    b ∈ g.due now ↔ b ∈ g ∧ b.deadline ≤ now := by
  constructor
  · intro hb
    exact ⟨List.takeWhile_subset _ hb, by simpa using List.mem_takeWhile_imp hb⟩
  · rintro ⟨hb, hdue⟩
    rw [← due_append_afterTick g now, List.mem_append] at hb
    refine hb.resolve_right fun hlater => ?_
    have := (h.mem_afterTick.mp hlater).2
    omega

variable [DecidableEq κ]

/-- The entry that was rescheduled has the new deadline, and the others are what they were. -/
theorem mem_reschedule {deadline : Nat} (h : g.find? a.id = some a) :
    b ∈ g.reschedule a.id deadline ↔ b = { a with deadline } ∨ b ∈ g ∧ b.id ≠ a.id := by
  simp only [reschedule, h, mem_insert, erase, List.mem_filter, decide_eq_true_eq]

theorem mem_erase {id : κ} : b ∈ g.erase id ↔ b ∈ g ∧ b.id ≠ id := by
  simp only [erase, List.mem_filter, decide_eq_true_eq]

end Agenda

namespace DeadlineList

variable {α : Type} {l : DeadlineList α} {g : Agenda DeadlineId α} {a b : Appointment DeadlineId α}

theorem Represents.nodup_ids (h : Represents l g) : (g.map (·.id)).Nodup := by
  have hplaces := h.arena.distinct
  rw [Option.toList_none, List.nil_append] at hplaces
  refine List.Nodup.of_map DeadlineId.index ?_
  rw [List.map_map]
  exact hplaces

theorem Represents.eq_of_id_eq (h : Represents l g) (ha : a ∈ g) (hb : b ∈ g)
    (hid : a.id = b.id) : a = b :=
  List.inj_on_of_nodup_map h.nodup_ids ha hb hid

theorem Represents.find?_of_mem (h : Represents l g) (ha : a ∈ g) : g.find? a.id = some a := by
  obtain ⟨front, rest, rfl⟩ := List.append_of_mem ha
  exact Agenda.find?_middle h.arena.ne_of_mem.1

theorem Represents.contains_of_mem (h : Represents l g) (ha : a ∈ g) : l.contains a.id = true := by
  rcases h.arena.contains_cases a.id with ⟨-, hnone⟩ | ⟨_, _, _, hcontains, -, -⟩
  · exact absurd rfl (hnone a ha)
  · exact hcontains

theorem Represents.deadline?_of_mem (h : Represents l g) (ha : a ∈ g) :
    l.deadline? a.id = some a.deadline := by
  obtain ⟨front, rest, rfl⟩ := List.append_of_mem ha
  rw [deadline?, if_pos (h.contains_of_mem ha), node?, h.arena.chain.linked.slot]
  rfl

end DeadlineList

end SiteServer
