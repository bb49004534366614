import SiteServer.DeadlineList.Ledger
import SiteServer.Proofs.DeadlineList.Links

/-!
# The order of deadlines

Each operation of a list of deadlines does to the entries what the operation of the same
name does to an agenda.

* `Represents l g`: the list holds the entries of `g`, in this order, which is ascending.
* `Represents.insert`, `Represents.reschedule`, `Represents.remove`, `Represents.takeDue`:
  the operations succeed, answer what they should and keep it so.

A deadline that is put off is looked for behind the old neighbours only, and one that does
not leave its neighbours behind is not looked for at all.  Both come to the same as a search
from the beginning, because whatever is left out would be skipped
(`Represents.reschedule`).
-/

namespace SiteServer
namespace Agenda

variable {κ α : Type} {a b : Appointment κ α} {g front rest : Agenda κ α}

/-! ## Agendas in two parts -/

theorem mem_insert : b ∈ g.insert a ↔ b = a ∨ b ∈ g := by
  induction g with
  | nil => simp [insert]
  | cons c g ih =>
    unfold insert
    split
    · simp
    · rw [List.mem_cons, ih, List.mem_cons]
      tauto

theorem length_insert (a : Appointment κ α) (g : Agenda κ α) :
    (g.insert a).length = g.length + 1 := by
  induction g with
  | nil => rfl
  | cons b g ih =>
    unfold insert
    split
    · rfl
    · rw [List.length_cons, List.length_cons, ih]

theorem Ascending.insert (h : g.Ascending) (a : Appointment κ α) : (g.insert a).Ascending := by
  induction g with
  | nil => exact List.pairwise_singleton _ _
  | cons b g ih =>
    obtain ⟨hb, hg⟩ := List.pairwise_cons.mp h
    unfold Agenda.insert
    split
    case isTrue hlater =>
      refine List.pairwise_cons.mpr ⟨fun c hc => ?_, h⟩
      rcases List.mem_cons.mp hc with rfl | hc
      · exact Nat.le_of_lt hlater
      · exact Nat.le_trans (Nat.le_of_lt hlater) (hb c hc)
    case isFalse hlater =>
      refine List.pairwise_cons.mpr ⟨fun c hc => ?_, ih hg⟩
      rcases mem_insert.mp hc with rfl | hc
      · exact Nat.not_lt.mp hlater
      · exact hb c hc

/-- If the last entry is not later than a deadline, none is. -/
theorem Ascending.le_of_last (h : front.Ascending) {deadline : Nat}
    (hlast : front.getLast?.all fun b => decide (b.deadline ≤ deadline)) :
    ∀ b ∈ front, b.deadline ≤ deadline := by
  intro b hb
  rcases List.eq_nil_or_concat front with rfl | ⟨init, c, rfl⟩
  · cases hb
  · rw [List.concat_eq_append] at h hlast hb
    have hc : c.deadline ≤ deadline := by simpa using hlast
    rcases List.mem_append.mp hb with hb | hb
    · have := (List.pairwise_append.mp h).2.2 b hb c (List.mem_singleton_self c)
      omega
    · rw [List.mem_singleton.mp hb]
      exact hc

/-- An entry stays where it is if its neighbours say so. -/
theorem insert_between (h : front.Ascending)
    (hfront : front.getLast?.all fun b => decide (b.deadline ≤ a.deadline))
    (hrest : rest.head?.all fun b => decide (a.deadline < b.deadline)) :
    Agenda.insert a (front ++ rest) = front ++ a :: rest := by
  have hall := h.le_of_last hfront
  rw [insert_eq, List.takeWhile_append_of_pos (by simpa using hall),
    List.dropWhile_append_of_pos (by simpa using hall)]
  cases rest with
  | nil => simp
  | cons c rest =>
    have hc : ¬c.deadline ≤ a.deadline := by simpa using hrest
    simp [hc]

variable [DecidableEq κ]

theorem find?_middle (hfront : ∀ b ∈ front, b.id ≠ a.id) :
    (front ++ a :: rest).find? a.id = some a := by
  have hnone : List.find? (fun b : Appointment κ α => b.id = a.id) front = none := by
    rw [List.find?_eq_none]
    simpa using hfront
  simp [find?, List.find?_append, hnone]

theorem erase_middle (hfront : ∀ b ∈ front, b.id ≠ a.id) (hrest : ∀ b ∈ rest, b.id ≠ a.id) :
    (front ++ a :: rest).erase a.id = front ++ rest := by
  unfold erase
  rw [List.filter_append, List.filter_cons_of_neg (by simp),
    List.filter_eq_self.mpr (by simpa using hfront), List.filter_eq_self.mpr (by simpa using hrest)]

theorem reschedule_middle (hfront : ∀ b ∈ front, b.id ≠ a.id) (hrest : ∀ b ∈ rest, b.id ≠ a.id)
    (deadline : Nat) :
    (front ++ a :: rest).reschedule a.id deadline
      = (front ++ rest).insert { a with deadline := deadline } := by
  rw [reschedule, find?_middle hfront]
  simp only [erase_middle hfront hrest]

theorem find?_eq_none {id : κ} (h : ∀ b ∈ g, b.id ≠ id) : g.find? id = none := by
  unfold find?
  rw [List.find?_eq_none]
  simpa using h

theorem erase_eq_self {id : κ} (h : ∀ b ∈ g, b.id ≠ id) : g.erase id = g :=
  List.filter_eq_self.mpr (by simpa using h)

end Agenda

namespace DeadlineList

variable {α : Type} {l l' : DeadlineList α} {g front rest : Agenda DeadlineId α}

/-- The list holds the entries of an agenda in their order. -/
structure Represents (l : DeadlineList α) (g : Agenda DeadlineId α) : Prop where
  arena : Arena l g none
  size_eq : l.size = g.length
  ascending : g.Ascending

theorem represents_empty : Represents (empty : DeadlineList α) [] where
  arena := ⟨⟨rfl, rfl, trivial⟩, List.nodup_nil, List.nodup_nil, by simp [empty], by simp [empty]⟩
  size_eq := rfl
  ascending := List.Pairwise.nil

/-- No two entries stand in one slot, so none of the others has the handle of this one. -/
theorem Arena.ne_of_mem {a : Appointment DeadlineId α} (h : Arena l (front ++ a :: rest) none) :
    (∀ b ∈ front, b.id ≠ a.id) ∧ ∀ b ∈ rest, b.id ≠ a.id := by
  have hdistinct := h.distinct
  simp only [Option.toList_none, List.nil_append, places_append, places_cons] at hdistinct
  have hnew := (List.nodup_cons.mp ((List.perm_middle).nodup_iff.mp hdistinct)).1
  constructor
  · intro b hb heq
    refine hnew (List.mem_append_left _ ?_)
    rw [← heq]
    exact List.mem_map_of_mem hb
  · intro b hb heq
    refine hnew (List.mem_append_right _ ?_)
    rw [← heq]
    exact List.mem_map_of_mem hb

/-- A handle refers to an entry exactly if the agenda has an entry under it. -/
theorem Arena.contains_cases (h : Arena l g none) (id : DeadlineId) :
    (l.contains id = false ∧ ∀ b ∈ g, b.id ≠ id) ∨
      ∃ front a rest, l.contains id = true ∧ g = front ++ a :: rest ∧ a.id = id := by
  by_cases hid : ∃ a ∈ g, a.id = id
  · obtain ⟨a, ha, rfl⟩ := hid
    obtain ⟨front, rest, rfl⟩ := List.append_of_mem ha
    refine Or.inr ⟨front, a, rest, ?_, rfl, rfl⟩
    simp [contains, h.chain.linked.slot, slotOf]
  · have hall : ∀ b ∈ g, b.id ≠ id := fun b hb heq => hid ⟨b, hb, heq⟩
    refine Or.inl ⟨?_, hall⟩
    unfold contains
    rcases hslot : l.slots[id.index]? with _ | ⟨generation, _ | n⟩
    · rfl
    · simp
    · -- the slot is taken by another entry, which came into it under another generation
      have hmem := h.taken _ _ _ hslot
      rw [Option.toList_none, List.nil_append] at hmem
      obtain ⟨a, ha, hindex⟩ := List.mem_map.mp hmem
      obtain ⟨front, rest, rfl⟩ := List.append_of_mem ha
      have hgeneration : generation ≠ id.generation := by
        intro heq
        have hsame := h.chain.linked.slot
        rw [hindex, hslot] at hsame
        simp only [slotOf, Option.some.injEq, Slot.mk.injEq] at hsame
        have hgenerations : a.id.generation = id.generation := hsame.1.symm.trans heq
        refine hall a ha ?_
        rw [DeadlineId.mk.injEq]
        exact ⟨hindex, hgenerations⟩
      simp [hgeneration]

theorem Arena.withSize {loose : Option Nat} (h : Arena l g loose) (size : Nat) :
    Arena { l with size } g loose :=
  ⟨⟨h.chain.head_eq, h.chain.tail_eq, h.chain.linked⟩, h.distinct, h.free_nodup, h.free_iff,
    h.taken⟩

/-! ## Adding -/

/-- An added entry stands behind those that are not later, and its handle is new. -/
theorem Represents.insert (h : Represents l g) (deadline : Nat) (payload : α) :
    ∃ id l', l.insert deadline payload = some (id, l') ∧
      Represents l' (g.insert ⟨id, deadline, payload⟩) ∧
      id.generation.toNat = l.given id.index ∧
      ∀ j, l'.given j = l.given j + if j = id.index then 1 else 0 := by
  obtain ⟨i, generation, l₁, hoccupy, harena, hslot, hhead, hsize, hgeneration, hgiven⟩ :=
    h.arena.occupy ⟨deadline, payload, none, none⟩
  have harena₁ : Arena l₁ ([] ++ g) (some i) := harena
  obtain ⟨l₂, hplace, harena₂, hlinks⟩ := Arena.place (a := ⟨⟨i, generation⟩, deadline, payload⟩)
    harena₁ hslot (List.forall_mem_nil _)
  have hslot₂ : ∃ n, l₂.slots[i]? = some ⟨generation, n⟩ := by
    obtain ⟨front, rest, hsplit⟩ := List.append_of_mem (Agenda.mem_insert.mpr
      (Or.inl (Eq.refl (⟨⟨i, generation⟩, deadline, payload⟩ : Appointment DeadlineId α))))
    have hlinked := harena₂.chain.linked
    rw [List.nil_append, hsplit] at hlinked
    exact ⟨_, hlinked.slot⟩
  obtain ⟨n, hslot₂⟩ := hslot₂
  have hstart : l₁.head = firstPlace g := hhead.trans h.arena.chain.head_eq
  refine ⟨⟨i, generation⟩, { l₂ with size := l₂.size + 1 }, ?_,
    ⟨harena₂.withSize _, ?_, h.ascending.insert _⟩, hgeneration, fun j => ?_⟩
  · simp only [DeadlineList.insert, hoccupy, hstart, hplace, hslot₂, Option.bind_eq_bind,
      Option.bind_some, Option.pure_def]
  · show l₂.size + 1 = _
    rw [hlinks.size_eq, hsize, h.size_eq, Agenda.length_insert]
  · rw [← hgiven j]
    exact hlinks.given_eq j

/-! ## Removing -/

/-- Taking out an entry of the list empties its slot. -/
theorem Represents.discard {a : Appointment DeadlineId α}
    (h : Represents l (front ++ a :: rest)) :
    ∃ l₁ n l₂, l.unlink a.id.index = some l₁ ∧ l₁.release a.id.index = some (n, l₂) ∧
      n.payload = a.payload ∧ Represents { l₂ with size := l₂.size - 1 } (front ++ rest) ∧
      ((∀ j, l.given j < 0x100000000) → ∀ j, l₂.given j = l.given j) := by
  obtain ⟨l₁, hunlink, harena₁, hslot, hlinks⟩ := h.arena.unlink
  obtain ⟨l₂, hrelease, harena₂, hsize, hgiven⟩ := harena₁.release hslot
  refine ⟨l₁, _, l₂, hunlink, hrelease, rfl, ⟨harena₂.withSize _, ?_, ?_⟩, fun hbound j => ?_⟩
  · show l₂.size - 1 = _
    rw [hsize, hlinks.size_eq, h.size_eq, List.length_append, List.length_append,
      List.length_cons]
    omega
  · exact h.ascending.sublist ((List.sublist_cons_self a rest).append_left front)
  · rw [hgiven (by rw [hlinks.given_eq]; exact hbound _), hlinks.given_eq]

/-- Removing takes out the entry that the handle refers to. -/
theorem Represents.remove (h : Represents l g) (id : DeadlineId) :
    ∃ l', l.remove id = some ((g.find? id).map (·.payload), l') ∧ Represents l' (g.erase id) ∧
      ((∀ j, l.given j < 0x100000000) → ∀ j, l'.given j = l.given j) := by
  rcases h.arena.contains_cases id with ⟨hcontains, hnone⟩ | ⟨front, a, rest, hcontains, rfl, rfl⟩
  · refine ⟨l, ?_, ?_, fun _ _ => rfl⟩
    · rw [Agenda.find?_eq_none hnone]
      simp [DeadlineList.remove, hcontains]
    · rwa [Agenda.erase_eq_self hnone]
  · obtain ⟨hfront, hrest⟩ := h.arena.ne_of_mem
    obtain ⟨l₁, n, l₂, hunlink, hrelease, hpayload, hrepresents, hgiven⟩ := h.discard
    refine ⟨{ l₂ with size := l₂.size - 1 }, ?_, ?_, hgiven⟩
    · rw [Agenda.find?_middle hfront, Option.map_some, ← hpayload]
      simp [DeadlineList.remove, hcontains, hunlink, hrelease]
    · rwa [Agenda.erase_middle hfront hrest]

/-- What is due is a beginning of the list, and it is taken out from the front. -/
theorem Represents.takeDueLoop (h : Represents l g) (now : Nat) {steps : Nat}
    (hsteps : g.length ≤ steps) :
    ∃ l', takeDueLoop now steps l = some ((g.due now).map (·.payload), l') ∧
      Represents l' (g.afterTick now) ∧
      ((∀ j, l.given j < 0x100000000) → ∀ j, l'.given j = l.given j) := by
  induction g generalizing l steps with
  | nil =>
    have hhead : l.head = none := h.arena.chain.head_eq
    refine ⟨l, ?_, h, fun _ _ => rfl⟩
    cases steps <;> simp [DeadlineList.takeDueLoop, hhead, Agenda.due]
  | cons a g ih =>
    cases steps with
    | zero => cases hsteps
    | succ steps =>
      have hg : g.length ≤ steps := Nat.le_of_succ_le_succ hsteps
      have hhead : l.head = some a.id.index := h.arena.chain.head_eq
      have hnode := node?_of_slot h.arena.chain.linked.1
      by_cases hdue : a.deadline ≤ now
      · have hfirst : Represents l ([] ++ a :: g) := h
        obtain ⟨l₁, n, l₂, hunlink, hrelease, hpayload, hrepresents, hgiven⟩ := hfirst.discard
        obtain ⟨l₃, hloop, hrepresents₃, hgiven₃⟩ := ih hrepresents hg
        refine ⟨l₃, ?_, ?_, fun hbound j => ?_⟩
        · simp [DeadlineList.takeDueLoop, hhead, hnode, Nat.not_lt.mpr hdue, hunlink, hrelease,
            hloop, Agenda.due, hdue, hpayload]
        · rwa [Agenda.afterTick, List.dropWhile_cons_of_pos (by simpa using hdue)]
        · have hsame : ∀ j, l₂.given j = l.given j := hgiven hbound
          have hbound₂ : ∀ j, l₂.given j < 0x100000000 := fun j => by
            rw [hsame]
            exact hbound j
          exact (hgiven₃ hbound₂ j).trans (hsame j)
      · refine ⟨l, ?_, ?_, fun _ _ => rfl⟩
        · simp [DeadlineList.takeDueLoop, hhead, hnode, Nat.not_le.mp hdue, Agenda.due, hdue]
        · rwa [Agenda.afterTick, List.dropWhile_cons_of_neg (by simpa using hdue)]

/-- A tick takes out what is due. -/
theorem Represents.takeDue (h : Represents l g) (now : Nat) :
    ∃ l', l.takeDue now = some ((g.due now).map (·.payload), l') ∧
      Represents l' (g.afterTick now) ∧
      ((∀ j, l.given j < 0x100000000) → ∀ j, l'.given j = l.given j) :=
  h.takeDueLoop now h.arena.length_le

/-! ## Rescheduling -/

/-- An entry may be given another deadline where it stands. -/
theorem Arena.setDeadline {a : Appointment DeadlineId α} (h : Arena l (front ++ a :: rest) none)
    (deadline : Nat) :
    ∃ l', l.update a.id.index (fun n => { n with deadline := deadline }) = some l' ∧
      Arena l' (front ++ { a with deadline := deadline } :: rest) none ∧ l'.size = l.size ∧
      ∀ j, l'.given j = l.given j := by
  have hdistinct := h.distinct
  simp only [Option.toList_none, List.nil_append, places_append, places_cons] at hdistinct
  have hnew := (List.nodup_cons.mp ((List.perm_middle).nodup_iff.mp hdistinct)).1
  obtain ⟨hfront, hback⟩ := chain_append.mp h.chain
  obtain ⟨hslot, hrest⟩ := back_cons.mp hback
  have hother : ∀ (generation : UInt32) (n : Node α), ∀ i ∈ places front ++ places rest,
      (l.withNode a.id.index generation n).slots[i]? = l.slots[i]? := by
    intro generation n i hi
    refine slots_withNode_ne l (fun heq => hnew ?_) generation n
    rw [← heq]
    exact hi
  refine ⟨_, update_of_slot hslot _, ⟨chain_append.mpr ⟨?_, back_cons.mpr ⟨?_, ?_⟩⟩, ?_,
    h.free_nodup, fun i => ?_, fun i generation n hi => ?_⟩, rfl, fun j => ?_⟩
  · exact hfront.congr rfl fun i hi => hother _ _ i (List.mem_append_left _ hi)
  · exact slots_withNode_self hslot _ _
  · exact hrest.congr rfl fun i hi => hother _ _ i (List.mem_append_right _ hi)
  · simpa only [places_append, places_cons] using h.distinct
  · show i ∈ l.free ↔ _
    rw [h.free_iff i]
    by_cases hi : i = a.id.index
    · subst hi
      rw [slots_withNode_self hslot, hslot]
      simp [slotOf]
    · rw [slots_withNode_ne l hi]
  · have hmem : i ∈ places (front ++ a :: rest) := by
      by_cases heq : i = a.id.index
      · simp [heq]
      · rw [slots_withNode_ne l heq] at hi
        exact h.taken i generation n hi
    simpa only [places_append, places_cons, Option.toList_none, List.nil_append] using hmem
  · by_cases hj : j = a.id.index
    · subst hj
      simp only [given, slots_withNode_self hslot, hslot]
      rfl
    · simp only [given, slots_withNode_ne l hj]

/-- Whether an entry comes before its neighbour behind it. -/
theorem isBefore?_of_back {before : Option Nat} (h : Back l before rest) (deadline : Nat) :
    l.isBefore? deadline (firstPlace rest)
      = some (rest.head?.all fun b => decide (deadline < b.deadline)) := by
  cases rest with
  | nil => rfl
  | cons b rest =>
    simp only [firstPlace_cons, isBefore?, node?_of_slot (back_cons.mp h).1, Option.map_some,
      List.head?_cons, Option.all_some]

/-- Whether an entry comes behind its neighbour in front of it. -/
theorem isBehind?_of_front {after : Option Nat} (h : Front l front after) (deadline : Nat) :
    l.isBehind? deadline (lastPlace front)
      = some (front.getLast?.all fun b => decide (b.deadline ≤ deadline)) := by
  rcases List.eq_nil_or_concat front with rfl | ⟨init, b, rfl⟩
  · rfl
  · rw [List.concat_eq_append] at h ⊢
    simp only [lastPlace_concat, isBehind?, node?_of_slot h.linked.slot, Option.map_some,
      List.getLast?_append, List.getLast?_singleton, Option.some_or, Option.all_some]

/-- A new deadline brings an entry where removing and adding it would have brought it,
whether it stays, is moved behind its old neighbour or is looked for from the front. -/
theorem Represents.reschedule (h : Represents l g) (id : DeadlineId) (deadline : Nat) :
    ∃ l', l.reschedule id deadline = some ((g.find? id).isSome, l') ∧
      Represents l' (g.reschedule id deadline) ∧ ∀ j, l'.given j = l.given j := by
  rcases h.arena.contains_cases id with ⟨hcontains, hnone⟩ | ⟨front, a, rest, hcontains, rfl, rfl⟩
  · refine ⟨l, ?_, ?_, fun _ => rfl⟩
    · rw [Agenda.find?_eq_none hnone]
      simp [DeadlineList.reschedule, hcontains]
    · rwa [Agenda.reschedule, Agenda.find?_eq_none hnone]
  have hascending : Agenda.Ascending (front ++ rest) :=
    h.ascending.sublist ((List.sublist_cons_self a rest).append_left front)
  have hfrontA : Agenda.Ascending front := (List.pairwise_append.mp hascending).1
  obtain ⟨hfrontNe, hrestNe⟩ := h.arena.ne_of_mem
  have hslot := (back_cons.mp (chain_append.mp h.arena.chain).2).1
  obtain ⟨l₁, hupdate, harena₁, hsize₁, hgiven₁⟩ := h.arena.setDeadline deadline
  obtain ⟨hfront₁, hback₁⟩ := chain_append.mp harena₁.chain
  have hbefore := isBefore?_of_back (back_cons.mp hback₁).2 deadline
  have hbehind := isBehind?_of_front hfront₁ deadline
  rw [Agenda.find?_middle hfrontNe, Agenda.reschedule_middle hfrontNe hrestNe, Option.isSome_some]
  have hlength : ∀ x : Appointment DeadlineId α,
      l₁.size = (Agenda.insert x (front ++ rest)).length := by
    intro x
    rw [hsize₁, h.size_eq, Agenda.length_insert]
    simp only [List.length_append, List.length_cons]
    omega
  simp only [DeadlineList.reschedule, hcontains, Bool.not_true, Bool.false_eq_true, if_false,
    node?_of_slot hslot, hupdate, hbefore, hbehind, Option.bind_eq_bind, Option.bind_some,
    Option.pure_def]
  split
  case isTrue hstay =>
    rw [Bool.and_eq_true] at hstay
    have hsame : Agenda.insert { a with deadline := deadline } (front ++ rest)
        = front ++ { a with deadline := deadline } :: rest :=
      Agenda.insert_between hfrontA hstay.2 hstay.1
    exact ⟨l₁, rfl, ⟨hsame ▸ harena₁, hlength _, hascending.insert _⟩, hgiven₁⟩
  case isFalse =>
    obtain ⟨l₂, hunlink, harena₂, hslot₂, hlinks₂⟩ := harena₁.unlink
    -- whatever the search leaves out it would skip
    obtain ⟨skipped, seen, hsplit, hstart, hskipped⟩ : ∃ skipped seen : Agenda DeadlineId α,
        skipped ++ seen = front ++ rest ∧
        (if (front.getLast?.all fun b => decide (b.deadline ≤ deadline))
            then firstPlace rest else l₂.head) = firstPlace seen ∧
        ∀ b ∈ skipped, b.deadline ≤ deadline := by
      split
      case isTrue hlast => exact ⟨front, rest, rfl, rfl, hfrontA.le_of_last hlast⟩
      case isFalse =>
        exact ⟨[], front ++ rest, rfl, harena₂.chain.head_eq, List.forall_mem_nil _⟩
    rw [← hsplit] at harena₂ hlength hascending ⊢
    obtain ⟨l₃, hplace, harena₃, hlinks₃⟩ := harena₂.place hslot₂ hskipped
    refine ⟨l₃, ?_, ⟨harena₃, ?_, hascending.insert _⟩, fun j => ?_⟩
    · have hunlink' : l₁.unlink a.id.index = some l₂ := hunlink
      have hplace' : l₂.place a.id.index (firstPlace seen) = some l₃ := hplace
      rw [hunlink', Option.bind_some]
      simp only [hstart, hplace', Option.bind_some]
    · rw [hlinks₃.size_eq, hlinks₂.size_eq]
      exact hlength _
    · rw [hlinks₃.given_eq, hlinks₂.given_eq, hgiven₁]

/-! ## Looking -/

theorem nodesFrom_of_linked {before : Option Nat} (h : Linked l.slots before g none)
    {steps : Nat} (hsteps : g.length ≤ steps) :
    (l.nodesFrom steps (firstPlace g)).map (fun ns => ns.map (·.deadline))
      = some (g.map (·.deadline)) := by
  induction g generalizing before steps with
  | nil => simp [nodesFrom]
  | cons a g ih =>
    cases steps with
    | zero => cases hsteps
    | succ steps =>
      obtain ⟨hslot, hrest⟩ := h
      obtain ⟨ns, hns, hsame⟩ :=
        Option.map_eq_some_iff.mp (ih hrest (Nat.le_of_succ_le_succ hsteps))
      simp [nodesFrom, node?_of_slot hslot, hns, hsame]

theorem entriesFrom_of_linked {before : Option Nat} (h : Linked l.slots before g none)
    {steps : Nat} (hsteps : g.length ≤ steps) :
    l.entriesFrom steps (firstPlace g) = some g := by
  induction g generalizing before steps with
  | nil => simp [entriesFrom]
  | cons a g ih =>
    cases steps with
    | zero => cases hsteps
    | succ steps =>
      obtain ⟨hslot, hrest⟩ := h
      simp [entriesFrom, hslot, slotOf, ih hrest (Nat.le_of_succ_le_succ hsteps)]

theorem Represents.entries (h : Represents l g) : l.entries = some g := by
  rw [DeadlineList.entries, h.arena.chain.head_eq]
  exact entriesFrom_of_linked h.arena.chain.linked h.arena.length_le

theorem Represents.deadlines (h : Represents l g) : l.deadlines = some (g.map (·.deadline)) := by
  rw [DeadlineList.deadlines, nodes, h.arena.chain.head_eq]
  exact nodesFrom_of_linked h.arena.chain.linked h.arena.length_le

/-- The first deadline of a list is that of the agenda. -/
theorem Represents.firstDeadline? (h : Represents l g) :
    l.firstDeadline? = g.head?.map (·.deadline) := by
  rw [DeadlineList.firstDeadline?, h.arena.chain.head_eq]
  cases g with
  | nil => rfl
  | cons a g =>
    have hslot := h.arena.chain.linked.1
    simp [node?_of_slot hslot]

end DeadlineList
end SiteServer
