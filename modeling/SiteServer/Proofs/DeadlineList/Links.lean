import Mathlib.Data.List.Basic
import Mathlib.Data.List.Nodup
import Mathlib.Data.List.Perm.Subperm
import SiteServer.DeadlineList.Agenda
import SiteServer.DeadlineList.Basic

/-!
# The links between deadlines

An agenda under handles says where each of its entries stands: in the slot that its handle
names.  So an agenda says what all links have to be, and `Chain l g` is that they are.

## Cutting a chain

All changes of links happen at one place.  What comes in front of that place hangs from the
head (`Front`), what comes behind it hangs from the tail (`Back`), and the two meet
(`chain_append`).  The two ends at such a place are changed by `setAfter` and `setBefore`,
each without touching the other side, and an entry goes out of the list or into it by these
two changes.

## The arena

`Arena l g loose` is the whole of it: the entries of `g` are chained, one slot may be taken
without being chained, and all others are free.

* `Arena.unlink`, `Arena.place`: an entry comes loose, and finds its place.
* `Arena.occupy`, `Arena.release`: a slot is taken, and given back.
-/

namespace SiteServer
namespace DeadlineList

variable {α : Type}

/-! ## Chains -/

/-- The slots of the entries. -/
def places (g : Agenda DeadlineId α) : List Nat := g.map (·.id.index)

/-- The slot of the first entry. -/
def firstPlace (g : Agenda DeadlineId α) : Option Nat := g.head?.map (·.id.index)

/-- The slot of the last entry. -/
def lastPlace (g : Agenda DeadlineId α) : Option Nat := g.getLast?.map (·.id.index)

@[simp] theorem places_nil : places ([] : Agenda DeadlineId α) = [] := rfl

@[simp] theorem places_cons (a : Appointment DeadlineId α) (g : Agenda DeadlineId α) :
    places (a :: g) = a.id.index :: places g := rfl

@[simp] theorem places_append (g g' : Agenda DeadlineId α) :
    places (g ++ g') = places g ++ places g' := List.map_append

@[simp] theorem firstPlace_nil : firstPlace ([] : Agenda DeadlineId α) = none := rfl

@[simp] theorem firstPlace_cons (a : Appointment DeadlineId α) (g : Agenda DeadlineId α) :
    firstPlace (a :: g) = some a.id.index := rfl

@[simp] theorem lastPlace_nil : lastPlace ([] : Agenda DeadlineId α) = none := rfl

theorem firstPlace_append (g g' : Agenda DeadlineId α) :
    firstPlace (g ++ g') = (firstPlace g).or (firstPlace g') := by
  cases g <;> simp [firstPlace]

theorem lastPlace_cons (a : Appointment DeadlineId α) (g : Agenda DeadlineId α) :
    lastPlace (a :: g) = (lastPlace g).or (some a.id.index) := by
  cases h : g.getLast? <;> simp [lastPlace, List.getLast?_cons, h]

theorem lastPlace_append (g g' : Agenda DeadlineId α) :
    lastPlace (g ++ g') = (lastPlace g').or (lastPlace g) := by
  rw [lastPlace, List.getLast?_append]
  cases h : g'.getLast? <;> simp [lastPlace, h]

@[simp] theorem lastPlace_concat (g : Agenda DeadlineId α) (a : Appointment DeadlineId α) :
    lastPlace (g ++ [a]) = some a.id.index := by
  simp [lastPlace]

/-- What the slot of an entry holds between the slots `before` and `after`. -/
def slotOf (a : Appointment DeadlineId α) (before after : Option Nat) : Slot α :=
  ⟨a.id.generation, some ⟨a.deadline, a.payload, before, after⟩⟩

/-- The entries stand in their slots, each linked to its neighbours: `before` comes before
the first of them, and `after` behind the last. -/
def Linked (slots : List (Slot α)) (before : Option Nat) :
    Agenda DeadlineId α → Option Nat → Prop
  | [], _ => True
  | a :: rest, after =>
    slots[a.id.index]? = some (slotOf a before ((firstPlace rest).or after)) ∧
      Linked slots (some a.id.index) rest after

theorem linked_append {slots : List (Slot α)} {before after : Option Nat}
    {g g' : Agenda DeadlineId α} :
    Linked slots before (g ++ g') after ↔
      Linked slots before g ((firstPlace g').or after) ∧
        Linked slots ((lastPlace g).or before) g' after := by
  induction g generalizing before with
  | nil => simp [Linked]
  | cons a g ih =>
    rw [List.cons_append, Linked, Linked, ih, lastPlace_cons, firstPlace_append, Option.or_assoc,
      Option.or_assoc, Option.some_or, and_assoc]

/-- Links depend on the slots of the entries only. -/
theorem Linked.congr {slots slots' : List (Slot α)} {before after : Option Nat}
    {g : Agenda DeadlineId α} (h : Linked slots before g after)
    (hsame : ∀ i ∈ places g, slots'[i]? = slots[i]?) : Linked slots' before g after := by
  induction g generalizing before with
  | nil => trivial
  | cons a g ih =>
    obtain ⟨hslot, hrest⟩ := h
    refine ⟨?_, ih hrest fun i hi => hsame i (List.mem_cons_of_mem _ hi)⟩
    rw [hsame _ List.mem_cons_self]
    exact hslot

theorem Linked.slot {slots : List (Slot α)} {before after : Option Nat}
    {front rest : Agenda DeadlineId α} {a : Appointment DeadlineId α}
    (h : Linked slots before (front ++ a :: rest) after) :
    slots[a.id.index]?
      = some (slotOf a ((lastPlace front).or before) ((firstPlace rest).or after)) :=
  (linked_append.mp h).2.1

theorem Linked.lt_length {slots : List (Slot α)} {before after : Option Nat}
    {g : Agenda DeadlineId α} (h : Linked slots before g after) {i : Nat} (hi : i ∈ places g) :
    i < slots.length := by
  obtain ⟨a, ha, rfl⟩ := List.mem_map.mp hi
  obtain ⟨front, rest, rfl⟩ := List.append_of_mem ha
  exact (List.getElem?_eq_some_iff.mp h.slot).1

/-- What hangs from the head, with `after` behind it. -/
structure Front (l : DeadlineList α) (front : Agenda DeadlineId α) (after : Option Nat) :
    Prop where
  head_eq : l.head = (firstPlace front).or after
  linked : Linked l.slots none front after

/-- What hangs from the tail, with `before` in front of it. -/
structure Back (l : DeadlineList α) (before : Option Nat) (rest : Agenda DeadlineId α) :
    Prop where
  tail_eq : l.tail = (lastPlace rest).or before
  linked : Linked l.slots before rest none

/-- The entries are linked from the head to the tail. -/
structure Chain (l : DeadlineList α) (g : Agenda DeadlineId α) : Prop where
  head_eq : l.head = firstPlace g
  tail_eq : l.tail = lastPlace g
  linked : Linked l.slots none g none

/-- A chain may be cut anywhere. -/
theorem chain_append {l : DeadlineList α} {front rest : Agenda DeadlineId α} :
    Chain l (front ++ rest) ↔
      Front l front (firstPlace rest) ∧ Back l (lastPlace front) rest := by
  constructor
  · intro h
    obtain ⟨hfront, hrest⟩ := linked_append.mp h.linked
    rw [Option.or_none] at hfront hrest
    exact ⟨⟨h.head_eq.trans (firstPlace_append _ _), hfront⟩,
      ⟨h.tail_eq.trans (lastPlace_append _ _), hrest⟩⟩
  · rintro ⟨hfront, hback⟩
    refine ⟨hfront.head_eq.trans (firstPlace_append _ _).symm,
      hback.tail_eq.trans (lastPlace_append _ _).symm, linked_append.mpr ?_⟩
    rw [Option.or_none, Option.or_none]
    exact ⟨hfront.linked, hback.linked⟩

theorem Front.congr {l k : DeadlineList α} {front : Agenda DeadlineId α} {after : Option Nat}
    (h : Front l front after) (hhead : k.head = l.head)
    (hsame : ∀ i ∈ places front, k.slots[i]? = l.slots[i]?) : Front k front after :=
  ⟨hhead.trans h.head_eq, h.linked.congr hsame⟩

theorem Back.congr {l k : DeadlineList α} {rest : Agenda DeadlineId α} {before : Option Nat}
    (h : Back l before rest) (htail : k.tail = l.tail)
    (hsame : ∀ i ∈ places rest, k.slots[i]? = l.slots[i]?) : Back k before rest :=
  ⟨htail.trans h.tail_eq, h.linked.congr hsame⟩

/-- The first entry behind a cut stands between its two neighbours. -/
theorem back_cons {l : DeadlineList α} {before : Option Nat} {a : Appointment DeadlineId α}
    {rest : Agenda DeadlineId α} :
    Back l before (a :: rest) ↔
      l.slots[a.id.index]? = some (slotOf a before (firstPlace rest)) ∧
        Back l (some a.id.index) rest := by
  constructor
  · intro h
    obtain ⟨hslot, hrest⟩ := h.linked
    rw [Option.or_none] at hslot
    refine ⟨hslot, ?_, hrest⟩
    rw [h.tail_eq, lastPlace_cons, Option.or_assoc, Option.some_or]
  · rintro ⟨hslot, hrest⟩
    refine ⟨?_, ?_, hrest.linked⟩
    · rw [hrest.tail_eq, lastPlace_cons, Option.or_assoc, Option.some_or]
    · rwa [Option.or_none]

/-! ## What changes of links leave alone -/

/-- A slot apart from its links. -/
def Slot.outline (s : Slot α) : UInt32 × Option (Nat × α) :=
  (s.generation, s.node.map fun n => (n.deadline, n.payload))

/-- Only links differ, and only those of the slots named, the head and the tail. -/
structure Relinked (touched : List Nat) (l l' : DeadlineList α) : Prop where
  free_eq : l'.free = l.free
  size_eq : l'.size = l.size
  slots_eq : ∀ i : Nat, i ∉ touched → l'.slots[i]? = l.slots[i]?
  outline_eq : ∀ i : Nat, (l'.slots[i]?).map Slot.outline = (l.slots[i]?).map Slot.outline

theorem Relinked.refl (touched : List Nat) (l : DeadlineList α) : Relinked touched l l :=
  ⟨rfl, rfl, fun _ _ => rfl, fun _ => rfl⟩

theorem Relinked.trans {touched : List Nat} {l l' l'' : DeadlineList α}
    (h : Relinked touched l l') (h' : Relinked touched l' l'') : Relinked touched l l'' where
  free_eq := h'.free_eq.trans h.free_eq
  size_eq := h'.size_eq.trans h.size_eq
  slots_eq := fun i hi => (h'.slots_eq i hi).trans (h.slots_eq i hi)
  outline_eq := fun i => (h'.outline_eq i).trans (h.outline_eq i)

theorem Relinked.mono {touched more : List Nat} {l l' : DeadlineList α}
    (h : Relinked touched l l') (hsub : touched ⊆ more) : Relinked more l l' :=
  ⟨h.free_eq, h.size_eq, fun i hi => h.slots_eq i fun hmem => hi (hsub hmem), h.outline_eq⟩

/-- The list with another entry in a slot. -/
def withNode (l : DeadlineList α) (i : Nat) (generation : UInt32) (n : Node α) :
    DeadlineList α :=
  { l with slots := l.slots.set i ⟨generation, some n⟩ }

theorem update_of_slot {l : DeadlineList α} {i : Nat} {generation : UInt32} {n : Node α}
    (h : l.slots[i]? = some ⟨generation, some n⟩) (f : Node α → Node α) :
    l.update i f = some (l.withNode i generation (f n)) := by
  simp only [update, h, withNode]

theorem node?_of_slot {l : DeadlineList α} {i : Nat} {generation : UInt32} {n : Node α}
    (h : l.slots[i]? = some ⟨generation, some n⟩) : l.node? i = some n := by
  simp only [node?, h, Option.bind_some]

theorem slots_withNode_self {l : DeadlineList α} {i : Nat} {s : Slot α}
    (h : l.slots[i]? = some s) (generation : UInt32) (n : Node α) :
    (l.withNode i generation n).slots[i]? = some ⟨generation, some n⟩ := by
  have hlt : i < l.slots.length := (List.getElem?_eq_some_iff.mp h).1
  simp [withNode, hlt]

theorem slots_withNode_ne (l : DeadlineList α) {i j : Nat} (h : j ≠ i) (generation : UInt32)
    (n : Node α) : (l.withNode i generation n).slots[j]? = l.slots[j]? :=
  List.getElem?_set_ne h.symm

/-- Other links for the entry in a slot are only that. -/
theorem relinked_withNode {l : DeadlineList α} {i : Nat} {generation : UInt32} {n m : Node α}
    (h : l.slots[i]? = some ⟨generation, some n⟩)
    (hsame : m.deadline = n.deadline ∧ m.payload = n.payload) :
    Relinked [i] l (l.withNode i generation m) where
  free_eq := rfl
  size_eq := rfl
  slots_eq := fun j hj => slots_withNode_ne l (fun heq => hj (by simp [heq])) generation m
  outline_eq := by
    intro j
    by_cases hj : j = i
    · subst hj
      rw [slots_withNode_self h, h]
      simp [Slot.outline, hsame]
    · rw [slots_withNode_ne l hj]

/-! ## Changing the two ends at a cut -/

/-- What comes in front of a cut may be given another neighbour. -/
theorem setAfter_of_front {l : DeadlineList α} {front : Agenda DeadlineId α}
    {after : Option Nat} (h : Front l front after) (hn : (places front).Nodup)
    (after' : Option Nat) :
    ∃ l', l.setAfter (lastPlace front) after' = some l' ∧ Front l' front after' ∧
      l'.tail = l.tail ∧ Relinked (places front) l l' := by
  rcases List.eq_nil_or_concat front with rfl | ⟨init, a, rfl⟩
  · exact ⟨{ l with head := after' }, rfl, ⟨rfl, trivial⟩, rfl, rfl, rfl, fun _ _ => rfl,
      fun _ => rfl⟩
  · rw [List.concat_eq_append] at *
    have hslot := h.linked.slot
    obtain ⟨hinit, -⟩ := linked_append.mp h.linked
    rw [places_append, List.nodup_append'] at hn
    have hchange := relinked_withNode hslot
      (m := ⟨a.deadline, a.payload, (lastPlace init).or none, after'⟩) ⟨rfl, rfl⟩
    refine ⟨_, ?_, ⟨?_, linked_append.mpr ⟨hinit.congr ?_, ?_, trivial⟩⟩, ?_,
      hchange.mono fun i hi => ?_⟩
    · rw [lastPlace_concat]
      exact update_of_slot hslot _
    · rw [firstPlace_append]
      have hhead := h.head_eq
      rw [firstPlace_append] at hhead
      cases init <;> exact hhead
    · intro i hi
      refine slots_withNode_ne l (fun heq => hn.2.2 hi ?_) _ _
      rw [heq]
      exact List.mem_singleton_self _
    · exact slots_withNode_self hslot _ _
    · rfl
    · rw [List.mem_singleton.mp hi, places_append]
      exact List.mem_append_right _ (List.mem_singleton_self _)

/-- What comes behind a cut may be given another neighbour. -/
theorem setBefore_of_back {l : DeadlineList α} {rest : Agenda DeadlineId α}
    {before : Option Nat} (h : Back l before rest) (hn : (places rest).Nodup)
    (before' : Option Nat) :
    ∃ l', l.setBefore (firstPlace rest) before' = some l' ∧ Back l' before' rest ∧
      l'.head = l.head ∧ Relinked (places rest) l l' := by
  cases rest with
  | nil =>
    exact ⟨{ l with tail := before' }, rfl, ⟨rfl, trivial⟩, rfl, rfl, rfl, fun _ _ => rfl,
      fun _ => rfl⟩
  | cons a rest =>
    obtain ⟨hslot, hrest⟩ := back_cons.mp h
    rw [places_cons, List.nodup_cons] at hn
    refine ⟨_, update_of_slot hslot _, back_cons.mpr ⟨slots_withNode_self hslot _ _,
      hrest.congr rfl fun i hi => ?_⟩, rfl,
      (relinked_withNode hslot (m := ⟨a.deadline, a.payload, before', firstPlace rest⟩)
        ⟨rfl, rfl⟩).mono (by simp)⟩
    refine slots_withNode_ne l (fun heq => hn.1 ?_) _ _
    rw [← heq]
    exact hi

/-! ## The arena -/

/-- The entries of `g` are chained, and every other slot is free, apart from one that may be
taken without being chained. -/
structure Arena (l : DeadlineList α) (g : Agenda DeadlineId α) (loose : Option Nat) : Prop where
  chain : Chain l g
  distinct : (loose.toList ++ places g).Nodup
  free_nodup : l.free.Nodup
  free_iff : ∀ i : Nat, i ∈ l.free ↔ ∃ generation, l.slots[i]? = some ⟨generation, none⟩
  taken : ∀ (i : Nat) generation n, l.slots[i]? = some ⟨generation, some n⟩ →
    i ∈ loose.toList ++ places g

variable {l l' : DeadlineList α} {g front rest : Agenda DeadlineId α}

theorem Relinked.free_iff {touched : List Nat} (h : Relinked touched l l') (i : Nat) :
    (∃ generation, l'.slots[i]? = some ⟨generation, none⟩) ↔
      ∃ generation, l.slots[i]? = some ⟨generation, none⟩ := by
  have hsame := h.outline_eq i
  rcases hl : l.slots[i]? with _ | ⟨generation, _ | n⟩ <;>
  rcases hl' : l'.slots[i]? with _ | ⟨generation', _ | n'⟩ <;>
    simp_all [Slot.outline]

theorem Relinked.taken {touched : List Nat} (h : Relinked touched l l') {i : Nat}
    {generation : UInt32} {n : Node α} (hi : l'.slots[i]? = some ⟨generation, some n⟩) :
    ∃ n', l.slots[i]? = some ⟨generation, some n'⟩ := by
  have hsame := h.outline_eq i
  rw [hi] at hsame
  rcases hl : l.slots[i]? with _ | ⟨generation', _ | n'⟩
  · rw [hl] at hsame; cases hsame
  · rw [hl] at hsame; simp [Slot.outline] at hsame
  · rw [hl] at hsame
    simp only [Slot.outline, Option.map_some, Option.some.injEq, Prod.mk.injEq] at hsame
    exact ⟨n', by rw [hsame.1]⟩

/-- After a change of links the arena is what the new chain says. -/
theorem Arena.relinked {loose loose' : Option Nat} {g' : Agenda DeadlineId α}
    {touched : List Nat} (h : Arena l g loose) (hlinks : Relinked touched l l')
    (hchain : Chain l' g')
    (hperm : (loose'.toList ++ places g').Perm (loose.toList ++ places g)) :
    Arena l' g' loose' where
  chain := hchain
  distinct := hperm.nodup_iff.mpr h.distinct
  free_nodup := hlinks.free_eq ▸ h.free_nodup
  free_iff := fun i => by rw [hlinks.free_eq, h.free_iff, hlinks.free_iff]
  taken := by
    intro i generation n hi
    obtain ⟨n', hi⟩ := hlinks.taken hi
    exact hperm.mem_iff.mpr (h.taken i generation n' hi)

/-- An entry comes loose. -/
theorem Arena.unlink {a : Appointment DeadlineId α}
    (h : Arena l (front ++ a :: rest) none) :
    ∃ l', l.unlink a.id.index = some l' ∧ Arena l' (front ++ rest) (some a.id.index) ∧
      l'.slots[a.id.index]? = some (slotOf a none none) ∧
      Relinked (places (front ++ a :: rest)) l l' := by
  have hdistinct := h.distinct
  simp only [Option.toList_none, List.nil_append, places_append, places_cons] at hdistinct
  obtain ⟨hnew, hboth⟩ := List.nodup_cons.mp ((List.perm_middle).nodup_iff.mp hdistinct)
  obtain ⟨hfrontN, hrestN, hdisjoint⟩ := List.nodup_append'.mp hboth
  obtain ⟨hfront, hback⟩ := chain_append.mp h.chain
  obtain ⟨hslot, hbackRest⟩ := back_cons.mp hback
  -- first the entry forgets its neighbours, then they forget it, one side after the other
  have hloose : Relinked [a.id.index] l
      (l.withNode a.id.index a.id.generation ⟨a.deadline, a.payload, none, none⟩) :=
    relinked_withNode hslot ⟨rfl, rfl⟩
  have hne : ∀ i ∈ places front ++ places rest, i ∉ [a.id.index] := by
    intro i hi heq
    exact hnew (List.mem_singleton.mp heq ▸ hi)
  obtain ⟨l₁, hset₁, hfront₁, htail₁, hlinks₁⟩ := setAfter_of_front
    (hfront.congr (k := l.withNode _ _ _) rfl fun i hi =>
      hloose.slots_eq i (hne i (List.mem_append_left _ hi)))
    hfrontN (firstPlace rest)
  have hback₁ : Back l₁ (some a.id.index) rest := hbackRest.congr htail₁ fun i hi =>
    (hlinks₁.slots_eq i fun hmem => hdisjoint hmem hi).trans
      (hloose.slots_eq i (hne i (List.mem_append_right _ hi)))
  obtain ⟨l₂, hset₂, hback₂, hhead₂, hlinks₂⟩ :=
    setBefore_of_back hback₁ hrestN (lastPlace front)
  have hfront₂ : Front l₂ front (firstPlace rest) := hfront₁.congr hhead₂ fun i hi =>
    hlinks₂.slots_eq i fun hmem => hdisjoint hi hmem
  have hlinks : Relinked (places (front ++ a :: rest)) l l₂ :=
    ((hloose.mono (by simp)).trans (hlinks₁.mono (by simp))).trans (hlinks₂.mono (by simp))
  refine ⟨l₂, ?_, h.relinked hlinks (chain_append.mpr ⟨hfront₂, hback₂⟩) ?_, ?_, hlinks⟩
  · simp only [DeadlineList.unlink, node?_of_slot hslot, update_of_slot hslot,
      Option.bind_eq_bind, Option.bind_some]
    exact (Option.bind_eq_some_iff.mpr ⟨l₁, hset₁, hset₂⟩)
  · simp only [Option.toList_some, Option.toList_none, places_append, places_cons]
    rw [List.nil_append, List.singleton_append]
    exact (List.perm_middle).symm
  · rw [hlinks₂.slots_eq _ fun hmem => hnew (List.mem_append_right _ hmem),
      hlinks₁.slots_eq _ fun hmem => hnew (List.mem_append_left _ hmem)]
    exact slots_withNode_self hslot _ _

/-- Seeking goes past the entries whose deadlines are not later. -/
theorem seek_of_linked {before : Option Nat} (h : Linked l.slots before g none)
    (deadline : Nat) {steps : Nat} (hsteps : g.length ≤ steps) :
    l.seek deadline steps (firstPlace g)
      = some (firstPlace (g.dropWhile fun a => a.deadline ≤ deadline)) := by
  induction g generalizing before steps with
  | nil => simp [seek]
  | cons a g ih =>
    obtain ⟨hslot, hrest⟩ := h
    cases steps with
    | zero => simp at hsteps
    | succ steps =>
      have hg : g.length ≤ steps := by simpa using hsteps
      simp only [firstPlace_cons, seek, node?_of_slot hslot, Option.bind_eq_bind,
        Option.bind_some]
      by_cases hlater : deadline < a.deadline
      · rw [if_pos hlater, List.dropWhile_cons_of_neg (by simpa using hlater)]
        rfl
      · rw [if_neg hlater, List.dropWhile_cons_of_pos (by simpa using hlater), Option.or_none,
          ih hrest hg]

theorem Arena.length_le {loose : Option Nat} (h : Arena l g loose) :
    g.length ≤ l.slots.length := by
  have hnodup : (places g).Nodup := (List.nodup_append'.mp h.distinct).2.1
  have hsub : places g ⊆ List.range l.slots.length := fun i hi =>
    List.mem_range.mpr (h.chain.linked.lt_length hi)
  have := (hnodup.subperm hsub).length_le
  rwa [places, List.length_map, List.length_range] at this

/-- An entry that is loose finds its place, if the search does not begin behind it. -/
theorem Arena.place {a : Appointment DeadlineId α} {skipped seen : Agenda DeadlineId α}
    {before after : Option Nat} (h : Arena l (skipped ++ seen) (some a.id.index))
    (hslot : l.slots[a.id.index]? = some (slotOf a before after))
    (hskipped : ∀ b ∈ skipped, b.deadline ≤ a.deadline) :
    ∃ l', l.place a.id.index (firstPlace seen) = some l' ∧
      Arena l' ((skipped ++ seen).insert a) none ∧
      Relinked (places ((skipped ++ seen).insert a)) l l' := by
  -- the place is where the entries that are not later end
  have hsplit : (skipped ++ seen).insert a
      = (skipped ++ seen.takeWhile fun b => b.deadline ≤ a.deadline)
        ++ a :: seen.dropWhile fun b => b.deadline ≤ a.deadline := by
    rw [Agenda.insert_eq, List.takeWhile_append_of_pos (by simpa using hskipped),
      List.dropWhile_append_of_pos (by simpa using hskipped)]
  have hcut : skipped ++ seen
      = (skipped ++ seen.takeWhile fun b => b.deadline ≤ a.deadline)
        ++ seen.dropWhile fun b => b.deadline ≤ a.deadline := by
    rw [List.append_assoc, List.takeWhile_append_dropWhile]
  have hseek : l.seek a.deadline l.slots.length (firstPlace seen)
      = some (firstPlace (seen.dropWhile fun b => b.deadline ≤ a.deadline)) := by
    refine seek_of_linked (linked_append.mp h.chain.linked).2 a.deadline ?_
    have := h.length_le
    rw [List.length_append] at this
    omega
  rw [hsplit]
  rw [hcut] at h
  generalize skipped ++ seen.takeWhile (fun b => b.deadline ≤ a.deadline) = front at h ⊢
  generalize seen.dropWhile (fun b => b.deadline ≤ a.deadline) = rest at h hseek ⊢
  have hdistinct := h.distinct
  simp only [Option.toList_some, List.singleton_append, places_append] at hdistinct
  obtain ⟨hnew, hboth⟩ := List.nodup_cons.mp hdistinct
  obtain ⟨hfrontN, hrestN, hdisjoint⟩ := List.nodup_append'.mp hboth
  obtain ⟨hfront, hback⟩ := chain_append.mp h.chain
  have hprev : l.previous? (firstPlace rest) = some (lastPlace front) := by
    cases rest with
    | nil => exact congrArg some hback.tail_eq
    | cons b rest =>
      simp only [firstPlace_cons, previous?, node?_of_slot (back_cons.mp hback).1,
        Option.map_some]
  -- the entry learns its neighbours, then they learn of it, one side after the other
  have hloose : Relinked [a.id.index] l (l.withNode a.id.index a.id.generation
      ⟨a.deadline, a.payload, lastPlace front, firstPlace rest⟩) :=
    relinked_withNode hslot ⟨rfl, rfl⟩
  have hne : ∀ i ∈ places front ++ places rest, i ∉ [a.id.index] := by
    intro i hi heq
    exact hnew (List.mem_singleton.mp heq ▸ hi)
  obtain ⟨l₁, hset₁, hback₁, hhead₁, hlinks₁⟩ := setBefore_of_back
    (hback.congr (k := l.withNode _ _ _) rfl fun i hi =>
      hloose.slots_eq i (hne i (List.mem_append_right _ hi)))
    hrestN (some a.id.index)
  have hfront₁ : Front l₁ front (firstPlace rest) := hfront.congr hhead₁ fun i hi =>
    (hlinks₁.slots_eq i fun hmem => hdisjoint hi hmem).trans
      (hloose.slots_eq i (hne i (List.mem_append_left _ hi)))
  obtain ⟨l₂, hset₂, hfront₂, htail₂, hlinks₂⟩ :=
    setAfter_of_front hfront₁ hfrontN (some a.id.index)
  have hback₂ : Back l₂ (some a.id.index) rest := hback₁.congr htail₂ fun i hi =>
    hlinks₂.slots_eq i fun hmem => hdisjoint hmem hi
  have hslot₂ : l₂.slots[a.id.index]? = some (slotOf a (lastPlace front) (firstPlace rest)) := by
    rw [hlinks₂.slots_eq _ fun hmem => hnew (List.mem_append_left _ hmem),
      hlinks₁.slots_eq _ fun hmem => hnew (List.mem_append_right _ hmem)]
    exact slots_withNode_self hslot _ _
  have hlinks : Relinked (places (front ++ a :: rest)) l l₂ :=
    ((hloose.mono (by simp)).trans (hlinks₁.mono (by simp))).trans (hlinks₂.mono (by simp))
  refine ⟨l₂, ?_, h.relinked hlinks
    (chain_append.mpr ⟨hfront₂, back_cons.mpr ⟨hslot₂, hback₂⟩⟩) ?_, hlinks⟩
  · simp only [DeadlineList.place, node?_of_slot hslot, hseek, hprev, update_of_slot hslot,
      Option.bind_eq_bind, Option.bind_some]
    exact Option.bind_eq_some_iff.mpr ⟨l₁, hset₁, hset₂⟩
  · simp only [Option.toList_some, Option.toList_none, places_append, places_cons,
      List.nil_append, List.singleton_append]
    exact List.perm_middle

/-! ## Slots -/

/-- How many handles a slot has given out: one for each generation that is over, and one
more if it is taken. -/
def given (l : DeadlineList α) (i : Nat) : Nat :=
  match l.slots[i]? with
  | some s => s.generation.toNat + s.node.toList.length
  | none => 0

theorem Relinked.given_eq {touched : List Nat} (h : Relinked touched l l') (i : Nat) :
    l'.given i = l.given i := by
  have hsame := h.outline_eq i
  unfold given
  rcases hl : l.slots[i]? with _ | ⟨generation, _ | n⟩ <;>
  rcases hl' : l'.slots[i]? with _ | ⟨generation', _ | n'⟩ <;>
    simp_all [Slot.outline]

/-- Taking a slot that no link leads to leaves the chain as it is. -/
theorem Arena.of_slot_taken {i : Nat} {generation : UInt32} {n : Node α} (h : Arena l g none)
    (hnew : i ∉ places g) (hslot : l'.slots[i]? = some ⟨generation, some n⟩)
    (hsame : ∀ j ≠ i, l'.slots[j]? = l.slots[j]?) (hhead : l'.head = l.head)
    (htail : l'.tail = l.tail) (hnodup : l'.free.Nodup)
    (hfree : ∀ j, j ∈ l'.free ↔ j ≠ i ∧ j ∈ l.free) : Arena l' g (some i) where
  chain := ⟨hhead.trans h.chain.head_eq, htail.trans h.chain.tail_eq,
    h.chain.linked.congr fun j hj => hsame j fun heq => hnew (heq ▸ hj)⟩
  distinct := List.nodup_cons.mpr ⟨hnew, h.distinct⟩
  free_nodup := hnodup
  free_iff := by
    intro j
    rw [hfree j, h.free_iff j]
    by_cases hj : j = i
    · simp [hj, hslot]
    · simp [hj, hsame j hj]
  taken := by
    intro j generation' m hj
    by_cases heq : j = i
    · simp [heq]
    · rw [hsame j heq] at hj
      exact List.mem_cons_of_mem _ (h.taken j generation' m hj)

/-- Taking a slot gives out one handle more. -/
theorem given_of_slot_taken {i : Nat} {generation : UInt32} {n : Node α}
    {k : DeadlineList α} (hslot : k.slots[i]? = some ⟨generation, some n⟩)
    (hsame : ∀ j ≠ i, k.slots[j]? = l.slots[j]?) (hgiven : generation.toNat = l.given i) (j : Nat) :
    k.given j = l.given j + if j = i then 1 else 0 := by
  by_cases hj : j = i
  · subst hj
    rw [if_pos rfl, ← hgiven]
    simp [given, hslot]
  · rw [if_neg hj, Nat.add_zero]
    simp only [given, hsame j hj]

/-- A slot is taken for an entry that is not yet chained. -/
theorem Arena.occupy (h : Arena l g none) (n : Node α) :
    ∃ i generation l', l.occupy n = some (i, l') ∧ Arena l' g (some i) ∧
      l'.slots[i]? = some ⟨generation, some n⟩ ∧ l'.head = l.head ∧ l'.size = l.size ∧
      generation.toNat = l.given i ∧
      ∀ j, l'.given j = l.given j + if j = i then 1 else 0 := by
  cases hfree : l.free with
  | nil =>
    have hnew : l.slots.length ∉ places g := fun hmem =>
      absurd (h.chain.linked.lt_length hmem) (Nat.lt_irrefl _)
    have hslot : (l.slots ++ [⟨0, some n⟩])[l.slots.length]? = some ⟨0, some n⟩ := by simp
    have hsame : ∀ j ≠ l.slots.length, (l.slots ++ [⟨0, some n⟩])[j]? = l.slots[j]? := by
      intro j hj
      rw [List.getElem?_append]
      split
      · rfl
      · rw [List.getElem?_eq_none (by simp; omega), List.getElem?_eq_none (by omega)]
    have hgiven : (0 : UInt32).toNat = l.given l.slots.length := by simp [given]
    refine ⟨l.slots.length, 0, { l with slots := l.slots ++ [⟨0, some n⟩] }, ?_,
      h.of_slot_taken hnew hslot hsame rfl rfl h.free_nodup ?_, hslot, rfl, rfl, hgiven,
      given_of_slot_taken (k := { l with slots := l.slots ++ [⟨0, some n⟩] }) hslot hsame hgiven⟩
    · simp only [DeadlineList.occupy, hfree]
    · intro j
      simp [hfree]
  | cons i free =>
    obtain ⟨generation, hvacant⟩ := (h.free_iff i).mp (by rw [hfree]; exact List.mem_cons_self)
    have hlt : i < l.slots.length := (List.getElem?_eq_some_iff.mp hvacant).1
    have hnew : i ∉ places g := by
      intro hmem
      obtain ⟨a, ha, rfl⟩ := List.mem_map.mp hmem
      obtain ⟨front, rest, rfl⟩ := List.append_of_mem ha
      rw [h.chain.linked.slot] at hvacant
      cases hvacant
    have hslot : (l.slots.set i ⟨generation, some n⟩)[i]? = some ⟨generation, some n⟩ := by
      simp [hlt]
    have hsame : ∀ j ≠ i, (l.slots.set i ⟨generation, some n⟩)[j]? = l.slots[j]? :=
      fun j hj => List.getElem?_set_ne hj.symm
    have hgiven : generation.toNat = l.given i := by simp [given, hvacant]
    have hnodup := h.free_nodup
    rw [hfree] at hnodup
    obtain ⟨hout, hnodup⟩ := List.nodup_cons.mp hnodup
    refine ⟨i, generation, { l with slots := l.slots.set i ⟨generation, some n⟩, free }, ?_,
      h.of_slot_taken hnew hslot hsame rfl rfl hnodup ?_, hslot, rfl, rfl, hgiven,
      given_of_slot_taken (k := { l with slots := l.slots.set i ⟨generation, some n⟩, free })
        hslot hsame hgiven⟩
    · simp only [DeadlineList.occupy, hfree, hvacant]
    · intro j
      rw [hfree, List.mem_cons]
      constructor
      · intro hj
        exact ⟨fun heq => hout (heq ▸ hj), Or.inr hj⟩
      · rintro ⟨hne, hj⟩
        exact hj.resolve_left hne

/-- A slot whose entry is not chained is given back.  It counts on from one generation to
the next. -/
theorem Arena.release {i : Nat} {generation : UInt32} {n : Node α} (h : Arena l g (some i))
    (hslot : l.slots[i]? = some ⟨generation, some n⟩) :
    ∃ l', l.release i = some (n, l') ∧ Arena l' g none ∧ l'.size = l.size ∧
      (l.given i < 0x100000000 → ∀ j, l'.given j = l.given j) := by
  have hlt : i < l.slots.length := (List.getElem?_eq_some_iff.mp hslot).1
  have hset : ∀ j, (l.slots.set i ⟨generation + 1, none⟩)[j]?
      = if j = i then some ⟨generation + 1, none⟩ else l.slots[j]? := by
    intro j
    by_cases hj : j = i
    · simp [hj, hlt]
    · rw [if_neg hj, List.getElem?_set_ne (Ne.symm hj)]
  obtain ⟨hout, hdistinct⟩ := List.nodup_cons.mp h.distinct
  have hkept : i ∉ l.free := by
    intro hmem
    obtain ⟨generation', hfree⟩ := (h.free_iff i).mp hmem
    rw [hslot] at hfree
    cases hfree
  unfold DeadlineList.release
  simp only [hslot]
  refine ⟨_, rfl, ⟨⟨h.chain.head_eq, h.chain.tail_eq, h.chain.linked.congr ?_⟩, hdistinct,
    List.nodup_cons.mpr ⟨hkept, h.free_nodup⟩, ?_, ?_⟩, rfl, ?_⟩
  · intro j hj
    rw [hset, if_neg]
    rintro rfl
    exact hout hj
  · intro j
    simp only [hset, List.mem_cons, h.free_iff j]
    split
    · rename_i heq
      simp [heq]
    · rename_i hne
      simp [hne]
  · intro j generation' m hj
    simp only [hset] at hj
    split at hj
    · cases hj
    · rename_i hne
      exact (List.mem_cons.mp (h.taken j generation' m hj)).resolve_left hne
  · intro hbound j
    by_cases hj : j = i
    · subst hj
      simp only [given, hslot, Option.toList_some, List.length_singleton] at hbound
      simp only [given, hset, hslot, if_true, Option.toList_some, Option.toList_none,
        List.length_singleton, List.length_nil, Nat.add_zero, UInt32.toNat_add, UInt32.toNat_one]
      exact Nat.mod_eq_of_lt hbound
    · simp only [given, hset, if_neg hj]

end DeadlineList
end SiteServer
