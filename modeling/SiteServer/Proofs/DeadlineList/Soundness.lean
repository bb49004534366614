import Mathlib.Data.List.Induction
import Mathlib.Data.List.Nodup
import SiteServer.DeadlineList.Way
import SiteServer.Proofs.DeadlineList.Extent

/-!
# The shape of the arena

Whatever is done to a list of deadlines, through whatever handles, its links can be followed from
both ends, and its slots are either on that way or free.

* `Sound`: what can be seen of a list that is in order, said by its slots alone.
* `Represents.sound`: a list that holds an agenda is in order.
* `Represents.apply`: an operation succeeds and leaves a list that holds an agenda, with one slot
  more at most, and that only if an entry was added.
-/

namespace SiteServer
namespace DeadlineList

variable {α : Type} {l l' : DeadlineList α} {g : Agenda DeadlineId α}

/-- A list that is in order.  The entries stand in the slots of `way`. -/
structure Sound (l : DeadlineList α) (way : List Nat) : Prop where
  way_eq : l.way = some way
  wayBack_eq : l.wayBack = some way.reverse
  nodup : way.Nodup
  mem_way : ∀ i, i ∈ way ↔ ∃ n, l.node? i = some n
  head_eq : l.head = way.head?
  tail_eq : l.tail = way.getLast?
  before_head : ∀ n, l.head.bind l.node? = some n → n.before = none
  after_tail : ∀ n, l.tail.bind l.node? = some n → n.after = none
  free_nodup : l.free.Nodup
  mem_free : ∀ i, i ∈ l.free ↔ ∃ generation, l.slots[i]? = some ⟨generation, none⟩
  size_eq : l.size = l.slots.countP (·.node.isSome)

/-! ## Following the links of a chain -/

/-- From the first entry on the links lead through all of them. -/
theorem wayFrom_after_of_linked {before : Option Nat} (h : Linked l.slots before g none)
    {steps : Nat} (hsteps : g.length ≤ steps) :
    l.wayFrom (·.after) steps (firstPlace g) = some (places g) := by
  induction g generalizing before steps with
  | nil => simp [wayFrom]
  | cons a g ih =>
    cases steps with
    | zero => cases hsteps
    | succ steps =>
      obtain ⟨hslot, hrest⟩ := h
      simp [wayFrom, node?_of_slot hslot, ih hrest (Nat.le_of_succ_le_succ hsteps)]

/-- From the last entry on the links lead back through all of them. -/
theorem wayFrom_before_of_linked {after : Option Nat} (h : Linked l.slots none g after)
    {steps : Nat} (hsteps : g.length ≤ steps) :
    l.wayFrom (·.before) steps (lastPlace g) = some (places g).reverse := by
  induction g using List.reverseRecOn generalizing after steps with
  | nil => simp [wayFrom]
  | append_singleton g a ih =>
    cases steps with
    | zero => simp at hsteps
    | succ steps =>
      have hg : g.length ≤ steps := by simpa using hsteps
      obtain ⟨hfront, -⟩ := linked_append.mp h
      simp [wayFrom, node?_of_slot h.slot, ih hfront hg]

/-! ## Counting the entries -/

/-- As many elements have a property as there are places with such an element. -/
theorem countP_eq_countP_range {β : Type} (p : β → Bool) (xs : List β) :
    xs.countP p = (List.range xs.length).countP fun i => (xs[i]?).any p := by
  induction xs using List.reverseRecOn with
  | nil => rfl
  | append_singleton xs x ih =>
    have hsame : ∀ i ∈ List.range xs.length,
        ((xs ++ [x])[i]?).any p = true ↔ (xs[i]?).any p = true := fun i hi => by
      rw [List.getElem?_append_left (List.mem_range.mp hi)]
    rw [List.countP_append, List.length_append, List.length_singleton, List.range_succ,
      List.countP_append, List.countP_congr hsame, ih]
    simp [List.countP_singleton]

/-- There is an entry in a slot exactly if it belongs to an entry of the agenda. -/
theorem Arena.mem_places_iff (h : Arena l g none) (i : Nat) :
    i ∈ places g ↔ ∃ n, l.node? i = some n := by
  constructor
  · intro hi
    obtain ⟨a, ha, rfl⟩ := List.mem_map.mp hi
    obtain ⟨front, rest, rfl⟩ := List.append_of_mem ha
    exact ⟨_, node?_of_slot h.chain.linked.slot⟩
  · rintro ⟨n, hn⟩
    obtain ⟨⟨generation, node⟩, hslot, hnode⟩ := Option.bind_eq_some_iff.mp hn
    obtain rfl : node = some n := hnode
    exact h.taken i generation n hslot

/-- There are as many entries as taken slots. -/
theorem Arena.length_eq_countP (h : Arena l g none) :
    g.length = l.slots.countP (·.node.isSome) := by
  have hdistinct : (places g).Nodup := h.distinct
  have hperm : (places g).Perm
      ((List.range l.slots.length).filter fun i => (l.slots[i]?).any (·.node.isSome)) := by
    refine (List.perm_ext_iff_of_nodup hdistinct (List.nodup_range.filter _)).mpr fun i => ?_
    rw [h.mem_places_iff, List.mem_filter, List.mem_range, node?]
    rcases hslot : l.slots[i]? with _ | ⟨generation, node⟩
    · simp
    · have hlt := (List.getElem?_eq_some_iff.mp hslot).1
      simp [hlt, Option.isSome_iff_exists]
  rw [countP_eq_countP_range, List.countP_eq_length_filter, ← hperm.length_eq, places,
    List.length_map]

/-! ## Lists that hold an agenda -/

/-- A list that holds an agenda is in order. -/
theorem Represents.sound (h : Represents l g) : Sound l (places g) where
  way_eq := by
    rw [way, h.arena.chain.head_eq]
    exact wayFrom_after_of_linked h.arena.chain.linked h.arena.length_le
  wayBack_eq := by
    rw [wayBack, h.arena.chain.tail_eq]
    exact wayFrom_before_of_linked h.arena.chain.linked h.arena.length_le
  nodup := h.arena.distinct
  mem_way := h.arena.mem_places_iff
  head_eq := by rw [h.arena.chain.head_eq, firstPlace, places, List.head?_map]
  tail_eq := by rw [h.arena.chain.tail_eq, lastPlace, places, List.getLast?_map]
  before_head := by
    intro n hn
    rw [h.arena.chain.head_eq] at hn
    cases g with
    | nil => cases hn
    | cons a g =>
      rw [firstPlace_cons, Option.bind_some, node?_of_slot h.arena.chain.linked.1] at hn
      obtain rfl := Option.some.inj hn
      rfl
  after_tail := by
    intro n hn
    rw [h.arena.chain.tail_eq] at hn
    rcases List.eq_nil_or_concat g with rfl | ⟨init, a, rfl⟩
    · cases hn
    · rw [List.concat_eq_append] at h hn
      rw [lastPlace_concat, Option.bind_some, node?_of_slot h.arena.chain.linked.slot] at hn
      obtain rfl := Option.some.inj hn
      rfl
  free_nodup := h.arena.free_nodup
  mem_free := h.arena.free_iff
  size_eq := h.size_eq.trans h.arena.length_eq_countP

/-- An operation succeeds, and the list holds an agenda again. -/
theorem Represents.apply (h : Represents l g) (operation : Operation α) :
    ∃ l' g', l.apply operation = some l' ∧ Represents l' g' ∧
      l'.slots.length ≤ l.slots.length + if operation.isInsert then 1 else 0 := by
  cases operation with
  | insert deadline payload =>
    obtain ⟨id, l', hinsert, hrepresents, -⟩ := h.insert deadline payload
    refine ⟨l', _, by rw [DeadlineList.apply, hinsert, Option.map_some], hrepresents, ?_⟩
    have hgrown := h.length_slots_insert hinsert
    have hentries := h.arena.length_le
    rw [Operation.isInsert, if_pos rfl]
    omega
  | reschedule id deadline =>
    obtain ⟨l', hreschedule, hrepresents, -⟩ := h.reschedule id deadline
    exact ⟨l', _, by rw [DeadlineList.apply, hreschedule, Option.map_some], hrepresents,
      Nat.le_of_eq (length_slots_reschedule hreschedule)⟩
  | remove id =>
    obtain ⟨l', hremove, hrepresents, -⟩ := h.remove id
    exact ⟨l', _, by rw [DeadlineList.apply, hremove, Option.map_some], hrepresents,
      Nat.le_of_eq (length_slots_remove hremove)⟩
  | takeDue now =>
    obtain ⟨l', htake, hrepresents, -⟩ := h.takeDue now
    exact ⟨l', _, by rw [DeadlineList.apply, htake, Option.map_some], hrepresents,
      Nat.le_of_eq (length_slots_takeDue htake)⟩

theorem insertions_cons (operation : Operation α) (operations : List (Operation α)) :
    insertions (operation :: operations)
      = insertions operations + if operation.isInsert then 1 else 0 :=
  List.countP_cons

/-- Operations one after another succeed, and the list holds an agenda in the end. -/
theorem Represents.applyAll (h : Represents l g) (operations : List (Operation α)) :
    ∃ l' g', l.applyAll operations = some l' ∧ Represents l' g' ∧
      l'.slots.length ≤ l.slots.length + insertions operations := by
  induction operations generalizing l g with
  | nil => exact ⟨l, g, rfl, h, Nat.le_refl _⟩
  | cons operation operations ih =>
    obtain ⟨l₁, g₁, happly, h₁, hgrown⟩ := h.apply operation
    obtain ⟨l₂, g₂, hrest, h₂, hgrown₂⟩ := ih h₁
    refine ⟨l₂, g₂, by rw [DeadlineList.applyAll, happly]; exact hrest, h₂, ?_⟩
    rw [insertions_cons]
    omega

/-- **The arena stays in order.**  Whatever is done to a list of deadlines, through whatever
handles, as long as fewer entries are added than a slot number can count: every operation comes to
its end without following a link to an empty slot or out of the arena.  Following the links from
the head one meets every taken slot once and ends at the tail; from the tail one meets the same
slots the other way round; nothing comes before the head or after the tail.  The other slots are
the free ones, each listed once, and the size is the number of taken slots.  Every slot number
fits into 32 bits, and the deadlines can be read off from the first to the last. -/
theorem sound_of_applyAll (operations : List (Operation α))
    (h : insertions operations < 0x100000000) :
    ∃ l way, (empty : DeadlineList α).applyAll operations = some l ∧ l.Sound way ∧
      l.slots.length < 0x100000000 ∧
      ∃ deadlines, l.deadlines = some deadlines ∧ deadlines.length = l.size := by
  obtain ⟨l, g, happly, hrepresents, hgrown⟩ := represents_empty.applyAll operations
  have hslots : l.slots.length < 0x100000000 := by
    have hnone : (empty : DeadlineList α).slots.length = 0 := rfl
    omega
  refine ⟨l, places g, happly, hrepresents.sound, hslots, _, hrepresents.deadlines, ?_⟩
  rw [List.length_map, hrepresents.size_eq]

/-- A slot is left and taken again, an entry is moved through the handle that was given out second,
and the handle that has outlived its entry is used once more. -/
theorem sound_of_applyAll_of_stale_handle :
    let operations : List (Operation Char) := [.insert 5 'a', .insert 6 'b', .remove ⟨0, 0⟩,
      .insert 7 'c', .reschedule ⟨1, 0⟩ 9, .reschedule ⟨0, 0⟩ 1, .remove ⟨0, 0⟩]
    insertions operations < 0x100000000 ∧
      ∃ l, (empty : DeadlineList Char).applyAll operations = some l ∧ l.Sound [0, 1] ∧
        l.slots.length < 0x100000000 := by
  intro operations
  have hcount : insertions operations < 0x100000000 := by decide
  obtain ⟨l, way, happly, hsound, hslots, -⟩ := sound_of_applyAll operations hcount
  have hends : (empty : DeadlineList Char).applyAll operations = some
      ⟨[⟨1, some ⟨7, 'c', none, some 1⟩⟩, ⟨0, some ⟨9, 'b', some 0, none⟩⟩], [], some 0, some 1, 2⟩ := by
    decide +kernel
  rw [hends] at happly
  cases happly
  have hway : some way = some [0, 1] := hsound.way_eq.symm.trans (by decide +kernel)
  exact ⟨hcount, _, hends, Option.some.inj hway ▸ hsound, hslots⟩

end DeadlineList
end SiteServer
