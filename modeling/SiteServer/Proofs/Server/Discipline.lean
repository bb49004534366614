import Mathlib.Data.List.Count
import Mathlib.Logic.Basic
import SiteServer.Proofs.Server.Operations

/-!
# Slots that rest and slots that travel

A connection that is handed over to the workers goes a long way: into the backlog if the
queue is full, into the queue, into the hands of a worker, and back as a message.  All that
time its slot does not wait for anything, and when it is back its slot waits again.

## The invariant

`transit r` lists the tickets of everything on its way.  Of a slot that is open one of two
things holds:

* `Resting`: it waits for its socket and its ticket is nowhere;
* `Travelling`: it waits for nothing and its ticket is in exactly one place.

`Disciplined` says this of all slots, and that every ticket belongs to a slot.

While the loop is busy with a slot, between taking its ticket and making it wait again, the
slot is neither.  So `Disciplined` leaves out one slot that is in the loop's own hands, and
of which nothing is on its way.  The loop takes a slot into hand when it rests
(`Disciplined.pick`) or when it is back (`Disciplined.take`), and lets go of it by closing it
(`Disciplined.close`), by making it wait (`Disciplined.await`) or by sending it off
(`Disciplined.depart`).
-/

namespace SiteServer

/-! ## Counting what workers hold -/

/-- Setting one place of a list changes the count of what is found there. -/
theorem count_filterMap_set {α β : Type} [BEq β] (f : α → Option β) (b : β) {l : List α}
    {i : Nat} {a : α} (h : l[i]? = some a) (a' : α) :
    ((l.set i a').filterMap f).count b + (f a).toList.count b
      = (l.filterMap f).count b + (f a').toList.count b := by
  induction l generalizing i with
  | nil => cases h
  | cons x l ih =>
    have hcons : ∀ (y : α) (l : List α),
        ((y :: l).filterMap f).count b = (f y).toList.count b + (l.filterMap f).count b := by
      intro y l
      rw [List.filterMap_cons]
      cases f y with
      | none => simp
      | some z => rw [List.count_cons, Option.toList_some, List.count_singleton, Nat.add_comm]
    cases i with
    | zero =>
      cases h
      rw [List.set_cons_zero, hcons, hcons]
      omega
    | succ i =>
      have := ih h
      rw [List.set_cons_succ, hcons, hcons]
      omega

namespace Server

/-- The ticket of the connection in the hands of a worker. -/
def heldBy? : WorkerPool.Phase Job → Option Ticket
  | .handling job => some job.ticket
  | _ => none

namespace EventLoop

variable {r r' : EventLoop} {key now : Nat}

/-- The tickets of everything on its way: in the backlog, in the queue, in the hands of
workers, and in messages. -/
def transit (r : EventLoop) : List Ticket :=
  r.backlog ++ (r.pool.queue.map (·.ticket) ++
    (r.pool.workers.filterMap heldBy? ++ r.messages.map (·.1)))

/-- How often a ticket is on its way. -/
def load (r : EventLoop) (t : Ticket) : Nat := r.transit.count t

theorem load_eq (r : EventLoop) (t : Ticket) :
    r.load t = r.backlog.count t + ((r.pool.queue.map (·.ticket)).count t +
      ((r.pool.workers.filterMap heldBy?).count t + (r.messages.map (·.1)).count t)) := by
  simp only [load, transit, List.count_append]

theorem mem_transit_iff {t : Ticket} : t ∈ r.transit ↔ 0 < r.load t :=
  List.count_pos_iff.symm

theorem ticket_eq {t : Ticket} {s : Slot} (h : s.id = t.id) : (⟨t.key, s.id⟩ : Ticket) = t := by
  rw [h]

/-! ## The invariant -/

/-- The slot waits for its socket, and its connection is nowhere else. -/
def Resting (r : EventLoop) (key : Nat) (s : Slot) : Prop :=
  s.isAway = false ∧ (s.awaits = some .read ∨ s.awaits = some .write) ∧ r.load ⟨key, s.id⟩ = 0

/-- The slot waits for nothing, and its connection is in exactly one place. -/
def Travelling (r : EventLoop) (key : Nat) (s : Slot) : Prop :=
  s.isAway = true ∧ s.awaits = none ∧ r.load ⟨key, s.id⟩ = 1

/-- Every slot rests or travels, apart from one that the loop may have in hand, and
everything on its way belongs to a slot. -/
structure Disciplined (inHand : Option Nat) (r : EventLoop) : Prop where
  sound : r.slots.Sound
  known : ∀ {key s}, r.slots.get? key = some s → s.id < r.connections.length
  distinct : ∀ {key key' s s'}, r.slots.get? key = some s → r.slots.get? key' = some s' →
    s.id = s'.id → key = key'
  owned : ∀ {t}, 0 < r.load t → inHand ≠ some t.key ∧ ∃ s, r.slot? t = some s
  placed : ∀ {key s}, r.slots.get? key = some s → inHand ≠ some key →
    r.Resting key s ∨ r.Travelling key s

variable {inHand : Option Nat}

/-- The invariant looks at slots, at what is on its way and at the number of connections,
and at nothing else. -/
theorem Disciplined.congr (h : r.Disciplined inHand) (hslots : r'.slots = r.slots)
    (hload : ∀ t, r'.load t = r.load t)
    (hconnections : r.connections.length ≤ r'.connections.length) :
    r'.Disciplined inHand where
  sound := hslots ▸ h.sound
  known := by
    intro key s hs
    rw [hslots] at hs
    exact Nat.lt_of_lt_of_le (h.known hs) hconnections
  distinct := by
    intro key key' s s' hs hs'
    rw [hslots] at hs hs'
    exact h.distinct hs hs'
  owned := by
    intro t ht
    rw [hload] at ht
    obtain ⟨hne, s, hs⟩ := h.owned ht
    refine ⟨hne, s, ?_⟩
    rw [slot?_eq_some] at hs ⊢
    rwa [hslots]
  placed := by
    intro key s hs hne
    rw [hslots] at hs
    simp only [Resting, Travelling, hload]
    exact h.placed hs hne

/-- Of a slot that rests nothing is on its way. -/
theorem Disciplined.load_of_resting (h : r.Disciplined none) {s : Slot}
    (hs : r.slots.get? key = some s) (haway : s.isAway = false) {t : Ticket} (ht : t.key = key) :
    r.load t = 0 := by
  by_contra hload
  obtain ⟨-, s', hs'⟩ := h.owned (Nat.pos_of_ne_zero hload)
  obtain ⟨hkey, hid⟩ := slot?_eq_some.mp hs'
  rw [ht, hs] at hkey
  cases hkey
  rcases h.placed hs nofun with ⟨-, -, hzero⟩ | ⟨htravel, -, -⟩
  · rw [← ht, ticket_eq hid] at hzero
    exact hload hzero
  · rw [haway] at htravel
    cases htravel

/-- The loop takes a slot that rests into hand. -/
theorem Disciplined.pick (h : r.Disciplined none) {s : Slot} (hs : r.slots.get? key = some s)
    (haway : s.isAway = false) : r.Disciplined (some key) where
  sound := h.sound
  known := h.known
  distinct := h.distinct
  owned := by
    intro t ht
    refine ⟨fun heq => ?_, (h.owned ht).2⟩
    have hzero := h.load_of_resting hs haway (Option.some.inj heq).symm
    omega
  placed := fun hs' _ => h.placed hs' nofun

/-- The loop takes a slot that travels into hand, together with its ticket. -/
theorem Disciplined.take (h : r.Disciplined none) {t : Ticket} {s : Slot}
    (hs : r.slot? t = some s) (hslots : r'.slots = r.slots)
    (hload : ∀ u, r'.load u + (if u = t then 1 else 0) = r.load u)
    (hconnections : r'.connections = r.connections) : r'.Disciplined (some t.key) := by
  obtain ⟨hkey, hid⟩ := slot?_eq_some.mp hs
  have hload_self := hload t
  rw [if_pos rfl] at hload_self
  -- the ticket was in one place, and now it is in none
  have hone : r.load t = 1 := by
    rcases h.placed hkey nofun with ⟨-, -, hzero⟩ | ⟨-, -, hone⟩
    · rw [ticket_eq hid] at hzero
      omega
    · rwa [ticket_eq hid] at hone
  refine ⟨hslots ▸ h.sound, ?_, ?_, ?_, ?_⟩
  · intro key s hs
    rw [hslots] at hs
    rw [hconnections]
    exact h.known hs
  · intro key key' s s' hs hs'
    rw [hslots] at hs hs'
    exact h.distinct hs hs'
  · intro u hu
    have hu' : 0 < r.load u := by
      have := hload u
      omega
    obtain ⟨-, s', hs'⟩ := h.owned hu'
    refine ⟨fun heq => ?_, s', ?_⟩
    · have hkeys : t.key = u.key := Option.some.inj heq
      obtain ⟨hukey, huid⟩ := slot?_eq_some.mp hs'
      rw [← hkeys, hkey] at hukey
      cases hukey
      have hsame : u = t := by rw [← ticket_eq huid, ← ticket_eq hid, hkeys]
      rw [hsame] at hu
      omega
    · rw [slot?_eq_some] at hs' ⊢
      rwa [hslots]
  · intro key' s' hs' hne
    rw [hslots] at hs'
    have hsame : r'.load ⟨key', s'.id⟩ = r.load ⟨key', s'.id⟩ := by
      have hother : (⟨key', s'.id⟩ : Ticket) ≠ t := by
        rintro rfl
        exact hne rfl
      have := hload ⟨key', s'.id⟩
      rwa [if_neg hother] at this
    simp only [Resting, Travelling, hsame]
    exact h.placed hs' nofun

/-- A slot in hand that rests or travels again may be let go of. -/
theorem Disciplined.putDown (h : r.Disciplined (some key))
    (hback : ∀ s, r.slots.get? key = some s → r.Resting key s ∨ r.Travelling key s) :
    r.Disciplined none where
  sound := h.sound
  known := h.known
  distinct := h.distinct
  owned := fun ht => ⟨nofun, (h.owned ht).2⟩
  placed := by
    intro key' s hs _
    by_cases hkey : key' = key
    · subst hkey
      exact hback s hs
    · exact h.placed hs fun heq => hkey (Option.some.inj heq).symm

theorem Disciplined.load_inHand (h : r.Disciplined (some key)) (id : Nat) :
    r.load ⟨key, id⟩ = 0 := by
  by_contra hload
  exact (h.owned (Nat.pos_of_ne_zero hload)).1 rfl

/-! ## Changing slots -/

/-- A change of a slot that leaves its number alone, and more than that only if the slot is
in hand, keeps the invariant. -/
theorem Disciplined.updateSlot (h : r.Disciplined inHand) {f : Slot → Slot}
    (hid : ∀ s, (f s).id = s.id)
    (hrest : inHand = some key ∨ ∀ s, (f s).isAway = s.isAway ∧ (f s).awaits = s.awaits) :
    (r.updateSlot key f).Disciplined inHand := by
  -- what is found in a slot afterwards was there before, up to the change
  have hback : ∀ {k s'}, (r.updateSlot key f).slots.get? k = some s' →
      ∃ s, r.slots.get? k = some s ∧ (s' = if k = key then f s else s) ∧ s'.id = s.id := by
    intro k s' hs'
    obtain ⟨s, hs, rfl⟩ := KeyTable.get?_modify_eq_some.mp hs'
    refine ⟨s, hs, rfl, ?_⟩
    split
    · exact hid s
    · rfl
  refine ⟨KeyTable.sound_modify h.sound key f, ?_, ?_, ?_, ?_⟩
  · intro k s' hs'
    obtain ⟨s, hs, -, hsame⟩ := hback hs'
    rw [hsame]
    exact h.known hs
  · intro k k' s s' hs hs' heq
    obtain ⟨u, hu, -, hsame⟩ := hback hs
    obtain ⟨u', hu', -, hsame'⟩ := hback hs'
    exact h.distinct hu hu' (by rw [← hsame, ← hsame', heq])
  · intro t ht
    obtain ⟨hne, s, hs⟩ := h.owned (show 0 < r.load t from ht)
    obtain ⟨hkey, hsid⟩ := slot?_eq_some.mp hs
    have hfound : (r.updateSlot key f).slots.get? t.key
        = some (if t.key = key then f s else s) :=
      KeyTable.get?_modify_eq_some.mpr ⟨s, hkey, rfl⟩
    obtain ⟨u, hu, -, hsame⟩ := hback hfound
    rw [hkey] at hu
    cases hu
    exact ⟨hne, _, slot?_eq_some.mpr ⟨hfound, hsame.trans hsid⟩⟩
  · intro k s' hs' hne
    obtain ⟨s, hs, hchange, hsame⟩ := hback hs'
    have hplaced := h.placed hs hne
    have hload : (r.updateSlot key f).load ⟨k, s'.id⟩ = r.load ⟨k, s.id⟩ := by
      rw [hsame]
      rfl
    simp only [Resting, Travelling, hload] at hplaced ⊢
    by_cases hk : k = key
    · rw [if_pos hk] at hchange
      rcases hrest with hhand | hkept
      · exact absurd (hk ▸ hhand) hne
      · rw [hchange, (hkept s).1, (hkept s).2]
        exact hplaced
    · rw [if_neg hk] at hchange
      rw [hchange]
      exact hplaced

/-- Closing a slot in hand leaves a server in which every slot rests or travels. -/
theorem Disciplined.close (h : r.Disciplined (some key)) {reason : ClosingReason}
    (hclose : r.close key reason = some r') : r'.Disciplined none := by
  rcases close_cases hclose with ⟨hnone, rfl⟩ | ⟨slot, deadlines, hslot, -, rfl⟩
  · exact h.putDown fun s hs => by rw [hnone] at hs; cases hs
  · -- the slots that are left are those under other keys
    refine ⟨KeyTable.sound_remove h.sound key, ?_, ?_, ?_, ?_⟩
    · intro k s hs
      exact h.known (KeyTable.get?_remove_eq_some.mp hs).2
    · intro k k' s s' hs hs'
      exact h.distinct (KeyTable.get?_remove_eq_some.mp hs).2
        (KeyTable.get?_remove_eq_some.mp hs').2
    · intro t ht
      obtain ⟨hne, s, hs⟩ := h.owned (show 0 < r.load t from ht)
      obtain ⟨hkey, hsid⟩ := slot?_eq_some.mp hs
      have hother : t.key ≠ key := fun hk => hne (by rw [hk])
      exact ⟨nofun, s, slot?_eq_some.mpr
        ⟨KeyTable.get?_remove_eq_some.mpr ⟨hother, hkey⟩, hsid⟩⟩
    · intro k s hs _
      obtain ⟨hk, hs⟩ := KeyTable.get?_remove_eq_some.mp hs
      exact h.placed hs fun heq => hk (Option.some.inj heq).symm

theorem Disciplined.await (h : r.Disciplined (some key)) {readiness : Readiness}
    (hback : ∀ s, r.slots.get? key = some s → s.isAway = false)
    (hawait : r.await key readiness = some r') : r'.Disciplined none := by
  have hupdated : (r.updateSlot key (·.await readiness)).Disciplined (some key) :=
    h.updateSlot (fun _ => rfl) (Or.inl rfl)
  rcases await_cases hawait with ⟨hnone, rfl⟩ | ⟨slot, hslot, ⟨-, rfl⟩ | ⟨-, hclose⟩⟩
  · exact h.putDown fun s hs => by rw [hnone] at hs; cases hs
  · refine hupdated.putDown fun s' hs' => Or.inl ?_
    have hload := hupdated.load_inHand s'.id
    rw [get?_updateSlot, if_pos rfl, hslot] at hs'
    cases hs'
    refine ⟨hback slot hslot, ?_, hload⟩
    cases readiness with
    | read => exact Or.inl rfl
    | write => exact Or.inr rfl
  · exact hupdated.close hclose

/-- Sending the connection of the slot in hand off puts one ticket more on its way. -/
theorem Disciplined.depart (h : r.Disciplined (some key)) {s : Slot}
    (hs : r.slots.get? key = some s) (hslots : r'.slots = (r.updateSlot key Slot.depart).slots)
    (hload : ∀ t, r'.load t = r.load t + (if t = ⟨key, s.id⟩ then 1 else 0))
    (hconnections : r'.connections = r.connections) : r'.Disciplined none := by
  have hupdated : (r.updateSlot key Slot.depart).Disciplined (some key) :=
    h.updateSlot (fun _ => rfl) (Or.inl rfl)
  have hkey : r'.slots.get? key = some s.depart := by
    rw [hslots, get?_updateSlot, if_pos rfl, hs]
    rfl
  refine ⟨hslots ▸ hupdated.sound, ?_, ?_, ?_, ?_⟩
  · intro k u hu
    rw [hslots] at hu
    rw [hconnections]
    exact hupdated.known hu
  · intro k k' u u' hu hu'
    rw [hslots] at hu hu'
    exact hupdated.distinct hu hu'
  · intro t ht
    refine ⟨nofun, ?_⟩
    by_cases htick : t = ⟨key, s.id⟩
    · subst htick
      exact ⟨s.depart, slot?_eq_some.mpr ⟨hkey, rfl⟩⟩
    · rw [hload, if_neg htick] at ht
      obtain ⟨-, u, hu⟩ := hupdated.owned (show 0 < (r.updateSlot key Slot.depart).load t from ht)
      refine ⟨u, ?_⟩
      rw [slot?_eq_some] at hu ⊢
      rwa [hslots]
  · intro k u hu _
    by_cases hk : k = key
    · subst hk
      rw [hkey] at hu
      cases hu
      have hzero := h.load_inHand s.id
      refine Or.inr ⟨rfl, rfl, ?_⟩
      show r'.load ⟨k, s.id⟩ = 1
      rw [hload, if_pos rfl, hzero]
    · have hother : (⟨k, u.id⟩ : Ticket) ≠ ⟨key, s.id⟩ := by
        intro heq
        exact hk (congrArg Ticket.key heq)
      rw [hslots] at hu
      have hplaced := hupdated.placed hu fun heq => hk (Option.some.inj heq).symm
      have hsame : r'.load ⟨k, u.id⟩ = (r.updateSlot key Slot.depart).load ⟨k, u.id⟩ := by
        rw [hload, if_neg hother]
        rfl
      simp only [Resting, Travelling, hsame]
      exact hplaced

end EventLoop
end Server
end SiteServer
