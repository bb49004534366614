import SiteServer.Proofs.DeadlineList.Order

/-!
# The extent of a list of deadlines

A list takes a new slot only if none of its slots is free (`Represents.length_slots_insert`),
and its other operations take none.  So it never has more slots than it had entries at some
time.
-/

namespace SiteServer
namespace DeadlineList

variable {α : Type} {l l' : DeadlineList α} {g : Agenda DeadlineId α}

/-- As many slots, and the same ones free. -/
def SameExtent (l l' : DeadlineList α) : Prop :=
  l'.slots.length = l.slots.length ∧ l'.free = l.free

theorem SameExtent.trans {l'' : DeadlineList α} (h : SameExtent l l') (h' : SameExtent l' l'') :
    SameExtent l l'' :=
  ⟨h'.1.trans h.1, h'.2.trans h.2⟩

theorem sameExtent_update {i : Nat} {f : Node α → Node α} (h : l.update i f = some l') :
    SameExtent l l' := by
  unfold update at h
  split at h
  · cases h
    exact ⟨List.length_set, rfl⟩
  · cases h

theorem sameExtent_setAfter {i next : Option Nat} (h : l.setAfter i next = some l') :
    SameExtent l l' := by
  cases i with
  | some i => exact sameExtent_update h
  | none =>
    cases h
    exact ⟨rfl, rfl⟩

theorem sameExtent_setBefore {i prev : Option Nat} (h : l.setBefore i prev = some l') :
    SameExtent l l' := by
  cases i with
  | some i => exact sameExtent_update h
  | none =>
    cases h
    exact ⟨rfl, rfl⟩

theorem sameExtent_place {i : Nat} {start : Option Nat} (h : l.place i start = some l') :
    SameExtent l l' := by
  simp only [place, Option.bind_eq_bind, Option.bind_eq_some_iff] at h
  obtain ⟨n, -, next, -, prev, -, l₁, hupdate, l₂, hbefore, hafter⟩ := h
  exact (sameExtent_update hupdate).trans
    ((sameExtent_setBefore hbefore).trans (sameExtent_setAfter hafter))

theorem sameExtent_unlink {i : Nat} (h : l.unlink i = some l') : SameExtent l l' := by
  simp only [unlink, Option.bind_eq_bind, Option.bind_eq_some_iff] at h
  obtain ⟨n, -, l₁, hupdate, l₂, hafter, hbefore⟩ := h
  exact (sameExtent_update hupdate).trans
    ((sameExtent_setAfter hafter).trans (sameExtent_setBefore hbefore))

theorem length_slots_release {i : Nat} {n : Node α} (h : l.release i = some (n, l')) :
    l'.slots.length = l.slots.length := by
  unfold release at h
  split at h
  · cases h
    exact List.length_set
  · cases h

/-! ## Operations that take no slot -/

theorem length_slots_reschedule {id : DeadlineId} {deadline : Nat} {found : Bool}
    (h : l.reschedule id deadline = some (found, l')) : l'.slots.length = l.slots.length := by
  unfold reschedule at h
  split at h
  · cases h
    rfl
  simp only [Option.bind_eq_bind, Option.pure_def, Option.bind_eq_some_iff] at h
  obtain ⟨n, -, l₁, hupdate, beforeNext, -, afterPrev, -, h⟩ := h
  have h₁ := sameExtent_update hupdate
  split at h
  · cases h
    exact h₁.1
  obtain ⟨l₂, hunlink, l₃, hplace, h⟩ := by
    simpa only [Option.bind_eq_some_iff] using h
  cases h
  exact (h₁.trans ((sameExtent_unlink hunlink).trans (sameExtent_place hplace))).1

theorem length_slots_remove {id : DeadlineId} {payload : Option α}
    (h : l.remove id = some (payload, l')) : l'.slots.length = l.slots.length := by
  unfold remove at h
  split at h
  · cases h
    rfl
  simp only [Option.bind_eq_bind, Option.pure_def, Option.bind_eq_some_iff] at h
  obtain ⟨l₁, hunlink, ⟨n, l₂⟩, hrelease, h⟩ := h
  cases h
  exact (length_slots_release hrelease).trans (sameExtent_unlink hunlink).1

theorem length_slots_takeDue {now : Nat} {fired : List α}
    (h : l.takeDue now = some (fired, l')) : l'.slots.length = l.slots.length := by
  have hloop : ∀ (steps : Nat) (l : DeadlineList α) (fired : List α),
      takeDueLoop now steps l = some (fired, l') → l'.slots.length = l.slots.length := by
    intro steps
    induction steps with
    | zero =>
      intro l fired h
      unfold takeDueLoop at h
      split at h
      · cases h
        rfl
      · cases h
    | succ steps ih =>
      intro l fired h
      unfold takeDueLoop at h
      split at h
      · cases h
        rfl
      simp only [Option.bind_eq_bind, Option.pure_def, Option.bind_eq_some_iff] at h
      obtain ⟨n, -, h⟩ := h
      split at h
      · cases h
        rfl
      obtain ⟨l₁, hunlink, ⟨n, l₂⟩, hrelease, ⟨later, l₃⟩, hrest, h⟩ := by
        simpa only [Option.bind_eq_some_iff] using h
      cases h
      exact (ih _ _ hrest).trans
        ((length_slots_release hrelease).trans (sameExtent_unlink hunlink).1)
  exact hloop _ _ _ h

/-! ## Adding -/

/-- If no slot is free there is an entry in each. -/
theorem Arena.length_eq (h : Arena l g none) (hfree : l.free = []) :
    l.slots.length = g.length := by
  refine Nat.le_antisymm ?_ h.length_le
  have hsub : List.range l.slots.length ⊆ places g := by
    intro i hi
    have hlt := List.mem_range.mp hi
    rcases hslot : l.slots[i]? with _ | ⟨generation, _ | n⟩
    · have := List.getElem?_eq_none_iff.mp hslot
      omega
    · have hvacant : i ∈ l.free := (h.free_iff i).mpr ⟨generation, hslot⟩
      rw [hfree] at hvacant
      cases hvacant
    · exact h.taken i generation n hslot
  have := (List.nodup_range.subperm hsub).length_le
  rwa [List.length_range, places, List.length_map] at this

/-- An entry takes a new slot only if there is one in each of the others. -/
theorem Represents.length_slots_insert (h : Represents l g) {deadline : Nat} {payload : α}
    {id : DeadlineId} (hinsert : l.insert deadline payload = some (id, l')) :
    l'.slots.length ≤ max l.slots.length (g.length + 1) := by
  simp only [DeadlineList.insert, Option.bind_eq_bind, Option.pure_def,
    Option.bind_eq_some_iff] at hinsert
  obtain ⟨⟨i, l₁⟩, hoccupy, l₂, hplace, slot, -, heq⟩ := hinsert
  cases heq
  show l₂.slots.length ≤ _
  rw [(sameExtent_place hplace).1]
  unfold occupy at hoccupy
  split at hoccupy
  case h_1 =>
    split at hoccupy
    · cases hoccupy
      simp only [List.length_set]
      exact Nat.le_max_left _ _
    · cases hoccupy
  case h_2 hfree =>
    cases hoccupy
    have := h.arena.length_eq hfree
    simp only [List.length_append, List.length_singleton]
    omega

end DeadlineList
end SiteServer
