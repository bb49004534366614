import SiteServer.Proofs.Server.Balance

/-!
# Ticks, and the books of a server

What a tick comes to: the connections whose deadlines have passed are ended, one after another
(`Ended`), and what is left in the books is what is not due (`Balanced.tick`).  With this every
operation of the loop is known to keep the books, and hence every step (`balanced_step`) and
every run (`balanced_of_reachable`).

A server that is shut down closes one slot after another, so there is nothing left in its books
(`Balanced.shutdown`), and its workers do not write into them (`books_of_worker`).
-/

namespace SiteServer
namespace Server

/-- What becomes of a slot when the deadline of its connection has passed: it is condemned if
the connection is away, and given up otherwise. -/
def Slot.expire (s : Slot) : Option Slot :=
  if s.isAway then some { s with deadline := none, condemned := s.condemned.or (some .idleTimeout) }
  else none

namespace EventLoop

variable {r r' r'' : EventLoop} {key now : Nat} {config : Config} {overdue : List Ticket}
  {g g' : Agenda DeadlineId Ticket}

/-! ## Ending what is overdue -/

/-- Between `r` and `r'` the connections in `ts` were ended, and nothing else happened to slots. -/
structure Ended (ts : List Ticket) (r r' : EventLoop) : Prop where
  slot : ∀ key, r'.slots.get? key
    = (r.slots.get? key).bind fun s => if ⟨key, s.id⟩ ∈ ts then s.expire else some s
  closed : ∃ ended : List Nat, r'.closed = ended.map (·, .idleTimeout) ++ r.closed ∧
    ∀ id, id ∈ ended ↔ ∃ key s, r.slots.get? key = some s ∧ s.id = id ∧ s.isAway = false ∧
      ⟨key, s.id⟩ ∈ ts

/-- A slot that is condemned twice is condemned. -/
theorem expire_of_expire {s s' : Slot} (h : s.expire = some s') :
    s'.expire = some s' ∧ s'.id = s.id ∧ s'.isAway = true := by
  unfold Slot.expire at h
  split at h
  case isTrue haway =>
    obtain rfl := Option.some.inj h
    refine ⟨?_, rfl, haway⟩
    simp only [Slot.expire, haway, if_true, Option.or_assoc, Option.or_self]
  case isFalse => cases h

theorem Ended.nil (r : EventLoop) : Ended [] r r := by
  refine ⟨fun key => ?_, [], rfl, fun id => ?_⟩
  · simp
  · simp

theorem Ended.cons {t : Ticket} {ts : List Ticket} (h : Ended [t] r r') (h' : Ended ts r' r'') :
    Ended (t :: ts) r r'' := by
  obtain ⟨ended, hclosed, hended⟩ := h.closed
  obtain ⟨ended', hclosed', hended'⟩ := h'.closed
  refine ⟨fun key => ?_, ended' ++ ended, ?_, fun id => ?_⟩
  · rw [h'.slot, h.slot]
    cases r.slots.get? key with
    | none => rfl
    | some s =>
      simp only [Option.bind_some, List.mem_cons, List.not_mem_nil, or_false]
      by_cases ht : (⟨key, s.id⟩ : Ticket) = t
      · simp only [ht, if_true, true_or]
        cases hexpire : s.expire with
        | none => rfl
        | some s' =>
          obtain ⟨hagain, -, -⟩ := expire_of_expire hexpire
          simp only [Option.bind_some, hagain, ite_self]
      · simp only [ht, if_false, false_or, Option.bind_some]
  · rw [hclosed', hclosed, List.map_append, List.append_assoc]
  · rw [List.mem_append, hended, hended']
    constructor
    · rintro (⟨k, s, hs, hid, haway, hmem⟩ | ⟨k, s, hs, hid, haway, hmem⟩)
      · -- what is left of a slot that was ended is away
        rw [h.slot, Option.bind_eq_some_iff] at hs
        obtain ⟨s₀, hs₀, hs⟩ := hs
        split at hs
        case isTrue =>
          have hthere := haway.symm.trans (expire_of_expire hs).2.2
          cases hthere
        case isFalse =>
          obtain rfl := Option.some.inj hs
          exact ⟨k, s₀, hs₀, hid, haway, List.mem_cons_of_mem _ hmem⟩
      · rw [List.mem_singleton] at hmem
        exact ⟨k, s, hs, hid, haway, hmem ▸ List.mem_cons_self⟩
    · rintro ⟨k, s, hs, hid, haway, hmem⟩
      by_cases ht : (⟨k, s.id⟩ : Ticket) = t
      · exact Or.inr ⟨k, s, hs, hid, haway, List.mem_singleton.mpr ht⟩
      · refine Or.inl ⟨k, s, ?_, hid, haway, (List.mem_cons.mp hmem).resolve_left ht⟩
        rw [h.slot, hs, Option.bind_some, if_neg (by rwa [List.mem_singleton])]

/-- One connection was ended: its slot is what is left of it, and the others stay. -/
theorem Ended.of_slot {t : Ticket} {s : Slot} (hs : r.slot? t = some s)
    (hleft : ∀ k, r'.slots.get? k = if k = t.key then s.expire else r.slots.get? k)
    (hclosed : r'.closed = if s.isAway then r.closed else (s.id, .idleTimeout) :: r.closed) :
    Ended [t] r r' := by
  obtain ⟨hget, hsid⟩ := slot?_eq_some.mp hs
  have hticket : (⟨t.key, s.id⟩ : Ticket) = t := ticket_eq hsid
  refine ⟨fun k => ?_, if s.isAway then [] else [s.id], ?_, fun id => ?_⟩
  · rw [hleft]
    by_cases hk : k = t.key
    · rw [if_pos hk, hk, hget, Option.bind_some, hticket, if_pos (List.mem_singleton_self t)]
    · rw [if_neg hk]
      cases r.slots.get? k with
      | none => rfl
      | some s' =>
        rw [Option.bind_some, if_neg]
        rintro hmem
        exact hk (congrArg Ticket.key (List.mem_singleton.mp hmem))
  · rw [hclosed]
    split <;> rfl
  · constructor
    · intro hmem
      split at hmem
      case isTrue => cases hmem
      case isFalse haway =>
        exact ⟨t.key, s, hget, (List.mem_singleton.mp hmem).symm, by simpa using haway,
          hticket ▸ List.mem_singleton_self _⟩
    · rintro ⟨k, s', hget', rfl, haway, hmem⟩
      obtain rfl : k = t.key := congrArg Ticket.key (List.mem_singleton.mp hmem)
      obtain rfl := Option.some.inj (hget.symm.trans hget')
      rw [haway]
      exact List.mem_singleton_self _

/-- No entry names a connection that is overdue, or its slot. -/
theorem Balanced.ne_of_overdue {t : Ticket} {ts : List Ticket} {s : Slot}
    (h : r.Balanced config (t :: ts) g) (hs : r.slot? t = some s) :
    ∀ a ∈ g, a.payload.key ≠ t.key := by
  intro a ha hkey
  obtain ⟨hget, hsid⟩ := slot?_eq_some.mp hs
  obtain ⟨hover, hticket, -⟩ := h.of_named ha (hkey ▸ hget)
  refine hover (List.mem_cons.mpr (Or.inl ?_))
  rw [← hticket, hkey, ticket_eq hsid]

theorem mem_cons_iff_of_key_ne {t : Ticket} (ts : List Ticket) (u : Ticket) (hu : u.key ≠ t.key) :
    u ∈ ts ↔ u ∈ t :: ts := by
  rw [List.mem_cons, or_iff_right fun heq => hu (congrArg Ticket.key heq)]

/-- A connection that has no slot any more is not looked at. -/
theorem Balanced.endGone {t : Ticket} {ts : List Ticket} (h : r.Balanced config (t :: ts) g)
    (hs : r.slot? t = none) :
    r.endOverdue t = some r ∧ r.Balanced config ts g ∧ Ended [t] r r := by
  have hgone : ∀ {k s}, r.slots.get? k = some s → (⟨k, s.id⟩ : Ticket) ≠ t := by
    rintro k s hget rfl
    rw [slot?_eq_some.mpr ⟨hget, rfl⟩] at hs
    cases hs
  refine ⟨by simp only [EventLoop.endOverdue, hs], { h with
    named := fun a ha =>
      (h.named a ha).imp_left fun hover hmem => hover (List.mem_cons_of_mem _ hmem)
    held := fun hget hid =>
      (h.held hget hid).imp_left fun hmem => (List.mem_cons.mp hmem).resolve_left (hgone hget) },
    fun k => ?_, [], rfl, fun id => ?_⟩
  · cases hget : r.slots.get? k with
    | none => rfl
    | some s => rw [Option.bind_some, if_neg (by rw [List.mem_singleton]; exact hgone hget)]
  · refine ⟨fun hmem => absurd hmem List.not_mem_nil, ?_⟩
    rintro ⟨k, s, hget, -, -, hmem⟩
    exact absurd (List.mem_singleton.mp hmem) (hgone hget)

/-- A connection that is away is condemned, and its slot has no deadline any more. -/
theorem Balanced.endAway {t : Ticket} {ts : List Ticket} {s : Slot}
    (h : r.Balanced config (t :: ts) g) (hs : r.slot? t = some s) (haway : s.isAway = true) :
    ∃ r', r.endOverdue t = some r' ∧ r'.Balanced config ts g ∧ Ended [t] r r' := by
  obtain ⟨hget, hsid⟩ := slot?_eq_some.mp hs
  let condemned := (r.updateSlot t.key fun s => { s with deadline := none }).updateSlot t.key
    (·.condemn .idleTimeout)
  have hend : r.endOverdue t = some condemned := by
    simp only [EventLoop.endOverdue, hs, haway, if_true]
    rfl
  have hleft : ∀ k, condemned.slots.get? k = if k = t.key then s.expire else r.slots.get? k := by
    intro k
    simp only [condemned, get?_updateSlot, hget]
    split
    · simp [Slot.expire, Slot.condemn, haway]
    · rfl
  have hfound : ∀ {k s'}, condemned.slots.get? k = some s' →
      (k = t.key ∧ s.expire = some s') ∨ (k ≠ t.key ∧ r.slots.get? k = some s') := by
    intro k s' hs'
    rw [hleft] at hs'
    split at hs'
    case isTrue hk => exact Or.inl ⟨hk, hs'⟩
    case isFalse hk => exact Or.inr ⟨hk, hs'⟩
  have hlost : ∀ {s'}, s.expire = some s' →
      s'.deadline = none ∧ s'.condemned.isSome = true ∧ s'.isAway = true := by
    intro s' hs'
    rw [Slot.expire, haway, if_pos rfl] at hs'
    obtain rfl := Option.some.inj hs'
    exact ⟨rfl, by simp, rfl⟩
  refine ⟨condemned, hend, ⟨h.config_eq, h.represents, h.room, ?_, h.count_le, ?_, ?_, ?_, ?_⟩,
    .of_slot hs hleft (by rw [haway]; rfl)⟩
  · show r.openCount = ((r.slots.modify _ _).modify _ _).size
    rw [KeyTable.size_modify, KeyTable.size_modify, h.count_eq]
  · intro a ha
    obtain ⟨hover, s', hs', hid⟩ := h.named a ha
    obtain ⟨hget', hsid'⟩ := slot?_eq_some.mp hs'
    refine ⟨fun hmem => hover (List.mem_cons_of_mem _ hmem), s',
      slot?_eq_some.mpr ⟨?_, hsid'⟩, hid⟩
    rwa [hleft, if_neg (h.ne_of_overdue hs a ha)]
  · intro k s' id hs' hid
    rcases hfound hs' with ⟨-, hexpire⟩ | ⟨hk, hs'⟩
    · have hnone := hid.symm.trans (hlost hexpire).1
      cases hnone
    · exact (h.held hs' hid).imp_left (mem_cons_iff_of_key_ne ts ⟨k, s'.id⟩ hk).mpr
  · intro k s' hs' hnone
    rcases hfound hs' with ⟨-, hexpire⟩ | ⟨-, hs'⟩
    · exact (hlost hexpire).2.1
    · exact h.undated hs' hnone
  · intro k s' hs' hhome
    rcases hfound hs' with ⟨-, hexpire⟩ | ⟨-, hs'⟩
    · have hthere := hhome.symm.trans (hlost hexpire).2.2
      cases hthere
    · exact h.spared hs' hhome

/-- A connection at home is closed. -/
theorem Balanced.endHome {t : Ticket} {ts : List Ticket} {s : Slot}
    (h : r.Balanced config (t :: ts) g) (hs : r.slot? t = some s) (haway : s.isAway = false) :
    ∃ r', r.endOverdue t = some r' ∧ r'.Balanced config ts g ∧ Ended [t] r r' := by
  obtain ⟨hget, -⟩ := slot?_eq_some.mp hs
  have hend : r.endOverdue t = some { r with
      slots := r.slots.remove t.key
      openCount := r.openCount - 1
      closed := (s.id, .idleTimeout) :: r.closed } := by
    have hlate : (r.updateSlot t.key fun s => { s with deadline := none }).slots.get? t.key
        = some { s with deadline := none } := by
      rw [get?_updateSlot, if_pos rfl, hget, Option.map_some]
    simp only [EventLoop.endOverdue, hs, haway, Bool.false_eq_true, if_false, EventLoop.close,
      hlate, deadlinesWithout, Option.map_some]
    simp only [EventLoop.updateSlot, KeyTable.remove_modify]
  have hbalanced := h.drop hget h.represents (Nat.le_refl _)
    (fun a => (and_iff_left_of_imp (h.ne_of_overdue hs a)).symm) (mem_cons_iff_of_key_ne ts)
    ((s.id, .idleTimeout) :: r.closed)
  refine ⟨_, hend, hbalanced, .of_slot hs (fun k => ?_) (by rw [haway]; rfl)⟩
  rw [Slot.expire, haway, if_neg Bool.false_ne_true]
  exact KeyTable.get?_remove t.key k

/-- Ending one connection makes those that are overdue fewer. -/
theorem Balanced.endOverdue {t : Ticket} {ts : List Ticket} (h : r.Balanced config (t :: ts) g) :
    ∃ r', r.endOverdue t = some r' ∧ r'.Balanced config ts g ∧ Ended [t] r r' := by
  cases hs : r.slot? t with
  | none => exact ⟨r, h.endGone hs⟩
  | some s =>
    cases haway : s.isAway with
    | true => exact h.endAway hs haway
    | false => exact h.endHome hs haway

/-- Ending all that is overdue leaves nothing overdue. -/
theorem Balanced.endAll {ts : List Ticket} (h : r.Balanced config ts g) :
    ∃ r', ts.foldlM EventLoop.endOverdue r = some r' ∧ r'.Balanced config [] g ∧ Ended ts r r' := by
  induction ts generalizing r with
  | nil => exact ⟨r, rfl, h, .nil r⟩
  | cons t ts ih =>
    obtain ⟨r₁, hone, hbalanced, hended⟩ := h.endOverdue
    obtain ⟨r', hall, hbalanced, hended'⟩ := ih hbalanced
    refine ⟨r', ?_, hbalanced, hended.cons hended'⟩
    rw [List.foldlM_cons, hone]
    exact hall

/-- A tick takes out what is due and ends those connections. -/
theorem Balanced.tick (h : r.Balanced config [] g) (now : Nat) :
    ∃ r', r.tick now = some r' ∧ r'.Balanced config [] (g.afterTick now) ∧
      Ended ((g.due now).map (·.payload)) r r' := by
  obtain ⟨deadlines, htake, hrepresents, -⟩ := h.represents.takeDue now
  have hafter : ∀ a, a ∈ g.afterTick now ↔ a ∈ g ∧ now < a.deadline := fun _ =>
    h.represents.ascending.mem_afterTick
  have hdue : ∀ a, a ∈ g.due now ↔ a ∈ g ∧ a.deadline ≤ now := fun _ =>
    h.represents.ascending.mem_due
  have htaken : Balanced config ((g.due now).map (·.payload)) (g.afterTick now)
      { r with deadlines } := by
    refine ⟨h.config_eq, hrepresents, ?_, h.count_eq, h.count_le, ?_, ?_, h.undated, h.spared⟩
    · exact Nat.le_trans (Nat.le_of_eq (DeadlineList.length_slots_takeDue htake)) h.room
    · intro a ha
      obtain ⟨ha, hlater⟩ := (hafter a).mp ha
      refine ⟨fun hmem => ?_, (h.named a ha).2⟩
      obtain ⟨b, hb, hpayload⟩ := List.mem_map.mp hmem
      obtain ⟨hb, hpast⟩ := (hdue b).mp hb
      obtain rfl := h.eq_of_key_eq hb ha (congrArg Ticket.key hpayload)
      omega
    · intro k s id hs hid
      obtain ⟨a, ha, haid, hpayload⟩ := (h.held hs hid).resolve_left List.not_mem_nil
      by_cases hpast : a.deadline ≤ now
      · exact Or.inl (List.mem_map.mpr ⟨a, (hdue a).mpr ⟨ha, hpast⟩, hpayload⟩)
      · exact Or.inr ⟨a, (hafter a).mpr ⟨ha, Nat.lt_of_not_le hpast⟩, haid, hpayload⟩
  obtain ⟨r', hall, hbalanced, hended⟩ := htaken.endAll
  refine ⟨r', ?_, hbalanced, hended.slot, hended.closed⟩
  simp only [EventLoop.tick, htake, Option.bind_eq_bind, Option.bind_some]
  exact hall

/-! ## Steps -/

/-- Every step keeps the books, and enters the deadlines of connections that were active. -/
theorem balanced_step {e : Event} (h : r.Balanced config [] g) (hr : r.Disciplined none)
    (hstep : r.step e = some r') :
    ∃ g', r'.Balanced config [] g' ∧ Entered r.window e.time? (r.calls e) g g' := by
  have hsilent : r.calls e = [] → (∃ g', r'.Balanced config [] g' ∧ g' ⊆ g) →
      ∃ g', r'.Balanced config [] g' ∧ Entered r.window e.time? (r.calls e) g g' :=
    fun hnone => exists_entered (activeIn_of_nil hnone)
  have hsame : r'.config = r.config → r'.slots = r.slots → r'.deadlines = r.deadlines →
      r'.openCount = r.openCount → ∃ g', r'.Balanced config [] g' ∧ g' ⊆ g :=
    fun hconfig hslots hdeadlines hcount =>
      ⟨g, h.congr hconfig hslots hdeadlines hcount, List.Subset.refl g⟩
  have hstream : ∀ id f, r' = r.updateStream id f → ∃ g', r'.Balanced config [] g' ∧ g' ⊆ g := by
    rintro id f rfl
    unfold EventLoop.updateStream
    split
    · exact ⟨g, h.setConnection _ _, List.Subset.refl g⟩
    · exact ⟨g, h, List.Subset.refl g⟩
  have hpool : ∀ {e}, r.poolStep e = some r' → ∃ g', r'.Balanced config [] g' ∧ g' ⊆ g := by
    intro e hstep
    obtain ⟨pool, -, rfl⟩ := Option.map_eq_some_iff.mp hstep
    exact hsame rfl rfl rfl rfl
  cases e with
  | arrive id deliveries => exact hsilent rfl (hstream id _ (Option.some.inj hstep).symm)
  | expect id acceptances => exact hsilent rfl (hstream id _ (Option.some.inj hstep).symm)
  | refuse ids =>
    obtain rfl := Option.some.inj hstep
    exact hsilent rfl (hsame rfl rfl rfl rfl)
  | poll batch =>
    simp only [step, Option.ite_none_right_eq_some, Option.some.injEq] at hstep
    obtain ⟨-, rfl⟩ := hstep
    exact hsilent rfl (hsame rfl rfl rfl rfl)
  | heed now =>
    simp only [step] at hstep
    split at hstep
    case h_1 => cases hstep
    case h_2 n batch hbatch =>
      have hbalanced : Balanced config [] g { r with batch } := h.congr rfl rfl rfl rfl
      have hdisciplined : Disciplined none { r with batch } :=
        hr.congr rfl (fun _ => rfl) (Nat.le_refl _)
      rw [calls_heed hbatch]
      exact hbalanced.heed hdisciplined hstep
  | accept now peer stream => exact h.accept hr hstep
  | offer =>
    obtain ⟨⟨s, more⟩, hoffer, rfl⟩ := Option.map_eq_some_iff.mp hstep
    exact hsilent rfl (h.offerFirst hoffer)
  | hear => exact hsilent rfl (h.hearFirst hstep)
  | tick now =>
    obtain ⟨r₁, htick, hbalanced, -⟩ := h.tick now
    obtain rfl := Option.some.inj (htick.symm.trans hstep)
    exact hsilent rfl ⟨_, hbalanced, List.dropWhile_subset _⟩
  | post => exact hsilent rfl (hpool hstep)
  | take worker => exact hsilent rfl (hpool hstep)
  | test worker => exact hsilent rfl (hpool hstep)
  | pop worker => exact hsilent rfl (hpool hstep)
  | process worker handle =>
    obtain ⟨backend, t, c, hbackend, hphase, hc, rfl⟩ := process_cases hstep
    refine exists_entered (activeIn_of_not fun call hcall => ?_) (hsame rfl rfl rfl rfl)
    simp only [calls, hbackend, hphase, hc, List.mem_singleton] at hcall
    rw [hcall]
    rfl
  | send worker =>
    obtain ⟨t, next, -, rfl⟩ := send_cases hstep
    exact hsilent rfl (hsame rfl rfl rfl rfl)

section Start

variable {service : Http.Service} {credentials : Store.Credentials} {storage : Store.Storage}
  {handles : List Store.Backend} {r₀ : EventLoop}

/-- A server that has just been started has nothing in its books. -/
theorem balanced_start (h : start config service credentials storage handles = .ok r) :
    r.Balanced config [] [] := by
  obtain ⟨pool, -, rfl⟩ := start_cases h
  have hnothing : ∀ key s, ({} : KeyTable Slot).get? key ≠ some s := by
    intro key s hs
    cases hs
  exact ⟨rfl, DeadlineList.represents_empty, Nat.zero_le _, rfl, Nat.zero_le _,
    List.forall_mem_nil _, fun hs => absurd hs (hnothing _ _),
    fun hs => absurd hs (hnothing _ _), fun hs => absurd hs (hnothing _ _)⟩

/-- The books balance in every state a server can come to. -/
theorem balanced_of_reachable (hstart : start config service credentials storage handles = .ok r₀)
    (h : Reachable r₀ r) : r.Disciplined none ∧ ∃ g, r.Balanced config [] g := by
  refine h.induction (P := fun r => r.Disciplined none ∧ ∃ g, r.Balanced config [] g)
    ⟨disciplined_start hstart, [], balanced_start hstart⟩ fun s e t hs hstep => ?_
  obtain ⟨hr, g, hbalanced⟩ := hs
  obtain ⟨g', hbalanced', -⟩ := balanced_step hbalanced hr hstep
  exact ⟨disciplined_step hr hstep, g', hbalanced'⟩

end Start

/-! ## Shutting down -/

/-- Closing slots one after another succeeds. -/
theorem Balanced.closeAll (h : r.Balanced config [] g) (keys : List Nat) (reason : ClosingReason) :
    ∃ r' g', keys.foldlM (fun r key => r.close key reason) r = some r' ∧
      r'.Balanced config [] g' := by
  induction keys generalizing r g with
  | nil => exact ⟨r, g, rfl, h⟩
  | cons key keys ih =>
    obtain ⟨r₁, g₁, hclose, hbalanced, -⟩ := h.close key reason
    obtain ⟨r', g', hall, hbalanced⟩ := ih hbalanced
    refine ⟨r', g', ?_, hbalanced⟩
    rw [List.foldlM_cons, hclose]
    exact hall

/-- Shutting down succeeds, and nothing is left in the books. -/
theorem Balanced.shutdown (h : r.Balanced config [] g) :
    ∃ r', r.shutdown = some r' ∧ r'.Balanced config [] [] ∧ r'.backlog = [] ∧
      r'.slots.size = 0 := by
  obtain ⟨r₁, g₁, hall, hbalanced⟩ := h.closeAll r.slots.keys .shutdown
  have hempty : ∀ key, r₁.slots.get? key = none := by
    intro key
    rw [Option.eq_none_iff_forall_ne_some]
    intro s hs
    obtain ⟨hnew, hs⟩ := (close_all hall).2.2.2 key s hs
    exact hnew (KeyTable.mem_keys.mpr ⟨s, hs⟩)
  have hnone : g₁ = [] := by
    rw [List.eq_nil_iff_forall_not_mem]
    intro a ha
    obtain ⟨-, s, hs, -⟩ := hbalanced.named a ha
    rw [slot?_eq_some, hempty] at hs
    cases hs.1
  subst hnone
  refine ⟨{ r₁ with backlog := [] }, ?_, hbalanced.congr rfl rfl rfl rfl, rfl,
    KeyTable.size_eq_zero_iff.mpr hempty⟩
  simp only [EventLoop.shutdown, hall, Option.bind_eq_bind, Option.bind_some]

/-- What workers do when the loop has stopped is not in the books. -/
theorem books_of_worker {events : List Event} (he : events.all Event.isOfWorker = true)
    (hrun : r.run events = some r') :
    r'.slots = r.slots ∧ r'.deadlines = r.deadlines ∧ r'.backlog = r.backlog ∧
      r'.openCount = r.openCount := by
  induction events generalizing r with
  | nil =>
    obtain rfl := Option.some.inj hrun
    exact ⟨rfl, rfl, rfl, rfl⟩
  | cons e events ih =>
    obtain ⟨he, hevents⟩ := Bool.and_eq_true_iff.mp he
    obtain ⟨r₁, hstep, hrun⟩ := Option.bind_eq_some_iff.mp hrun
    obtain ⟨hslots, hdeadlines, hbacklog, hcount⟩ := ih hevents hrun
    rw [hslots, hdeadlines, hbacklog, hcount]
    cases e with
    | post | take | test | pop =>
      obtain ⟨pool, -, rfl⟩ := Option.map_eq_some_iff.mp hstep
      exact ⟨rfl, rfl, rfl, rfl⟩
    | process worker handle =>
      obtain ⟨backend, t, c, -, -, -, rfl⟩ := process_cases hstep
      exact ⟨rfl, rfl, rfl, rfl⟩
    | send worker =>
      obtain ⟨t, next, -, rfl⟩ := send_cases hstep
      exact ⟨rfl, rfl, rfl, rfl⟩
    | arrive | expect | refuse | poll | heed | accept | offer | hear | tick => cases he

/-! ## What follows -/

/-- The connections whose slots have handles on deadlines, with these. -/
def dated (r : EventLoop) : List (Ticket × DeadlineId) :=
  r.slots.keys.filterMap fun key =>
    (r.slots.get? key).bind fun s => s.deadline.map ((⟨key, s.id⟩, ·))

theorem mem_dated {t : Ticket} {id : DeadlineId} :
    (t, id) ∈ r.dated ↔ ∃ s, r.slot? t = some s ∧ s.deadline = some id := by
  simp only [dated, List.mem_filterMap, Option.bind_eq_some_iff, Option.map_eq_some_iff,
    Prod.mk.injEq, KeyTable.mem_keys]
  constructor
  · rintro ⟨key, -, s, hs, _, hid, rfl, rfl⟩
    exact ⟨s, slot?_eq_some.mpr ⟨hs, rfl⟩, hid⟩
  · rintro ⟨s, hs, hid⟩
    obtain ⟨hget, hsid⟩ := slot?_eq_some.mp hs
    exact ⟨t.key, ⟨s, hget⟩, s, hget, id, hid, ticket_eq hsid, rfl⟩

theorem nodup_dated (r : EventLoop) : r.dated.Nodup := by
  refine List.Nodup.filterMap (fun key key' p hp hp' => ?_) (KeyTable.nodup_keys r.slots)
  simp only [Option.mem_def, Option.bind_eq_some_iff, Option.map_eq_some_iff] at hp hp'
  obtain ⟨s, -, id, -, rfl⟩ := hp
  obtain ⟨s', -, id', -, heq⟩ := hp'
  exact (congrArg (fun p => p.1.key) heq).symm

/-- The entries are those of the slots that have handles. -/
theorem Balanced.perm_dated (h : r.Balanced config [] g) :
    (g.map fun a => (a.payload, a.id)).Perm r.dated := by
  have hnodup : (g.map fun a => (a.payload, a.id)).Nodup := by
    refine List.Nodup.of_map Prod.snd ?_
    rw [List.map_map]
    exact h.represents.nodup_ids
  rw [List.perm_ext_iff_of_nodup hnodup r.nodup_dated]
  rintro ⟨t, id⟩
  rw [mem_dated, List.mem_map]
  constructor
  · rintro ⟨a, ha, heq⟩
    obtain ⟨rfl, rfl⟩ := Prod.mk.inj heq
    exact (h.named a ha).2
  · rintro ⟨s, hs, hid⟩
    obtain ⟨hget, hsid⟩ := slot?_eq_some.mp hs
    obtain ⟨a, ha, rfl, hpayload⟩ := (h.held hget hid).resolve_left List.not_mem_nil
    exact ⟨a, ha, by rw [hpayload, ticket_eq hsid]⟩

/-- **The books balance.**  In every state that a server can come to the count of open
connections is that of the slots that are taken, and within the limit.  No two slots have one
connection.  The entries of the deadlines are those that the slots have handles on, each with
the ticket of its slot, and the handles are live; there are never more places for entries than
connections are allowed.  Only a slot whose connection is away and condemned has no deadline.
The server can be shut down, and then nothing is left, whatever its workers do after that. -/
theorem books_balance {service : Http.Service} {credentials : Store.Credentials}
    {storage : Store.Storage} {handles : List Store.Backend} {r₀ : EventLoop}
    (hstart : start config service credentials storage handles = .ok r₀) (h : Reachable r₀ r) :
    r.openCount = r.slots.size ∧ r.openCount ≤ config.server.maxConnections ∧
    (∀ key key' s s', r.slots.get? key = some s → r.slots.get? key' = some s' → s.id = s'.id →
      key = key') ∧
    (∃ g, r.deadlines.entries = some g ∧ r.deadlines.size = g.length ∧
      (g.map fun a => (a.payload, a.id)).Perm r.dated) ∧
    (∀ t id, (t, id) ∈ r.dated → r.deadlines.contains id = true) ∧
    r.deadlines.slots.length ≤ config.server.maxConnections ∧
    (∀ key s, r.slots.get? key = some s → s.deadline = none →
      s.isAway = true ∧ s.condemned.isSome = true) ∧
    ∃ r', r.shutdown = some r' ∧
      ∀ events r'', events.all Event.isOfWorker = true → r'.run events = some r'' →
        r''.slots.size = 0 ∧ r''.deadlines.entries = some [] ∧ r''.deadlines.size = 0 ∧
        r''.backlog = [] ∧ r''.openCount = 0 := by
  obtain ⟨hr, g, hbalanced⟩ := balanced_of_reachable hstart h
  refine ⟨hbalanced.count_eq, hbalanced.count_le, fun _ _ _ _ => hr.distinct,
    ⟨g, hbalanced.represents.entries, hbalanced.represents.size_eq, hbalanced.perm_dated⟩, ?_,
    hbalanced.room, ?_, ?_⟩
  · intro t id hmem
    obtain ⟨a, ha, heq⟩ := List.mem_map.mp (hbalanced.perm_dated.mem_iff.mpr hmem)
    obtain ⟨-, rfl⟩ := Prod.mk.inj heq
    exact hbalanced.represents.contains_of_mem ha
  · intro key s hs hnone
    have hcondemned := hbalanced.undated hs hnone
    refine ⟨?_, hcondemned⟩
    by_contra haway
    rw [hbalanced.spared hs (by simpa using haway)] at hcondemned
    cases hcondemned
  · obtain ⟨r', hshutdown, hleft, hbacklog, hsize⟩ := hbalanced.shutdown
    refine ⟨r', hshutdown, fun events r'' hevents hrun => ?_⟩
    obtain ⟨hslots, hdeadlines, hbacklog', hcount⟩ := books_of_worker hevents hrun
    rw [hslots, hdeadlines, hbacklog', hcount]
    exact ⟨hsize, hleft.represents.entries, hleft.represents.size_eq, hbacklog,
      hleft.count_eq.trans hsize⟩

/-- With one client there is one entry, and nothing is left after a shutdown. -/
theorem books_balance_of_first_client :
    (∃ g, visited.deadlines.entries = some g ∧
      (g.map fun a => (a.payload, a.id)).Perm [(⟨0, 0⟩, ⟨0, 0⟩)]) ∧
    ∃ r', visited.shutdown = some r' ∧ r'.slots.size = 0 ∧ r'.deadlines.size = 0 ∧
      r'.openCount = 0 := by
  have hstart : start {} bare.service {} {} [.memory] = .ok bare := rfl
  have hvisited : bare.run
      [.accept 0 ⟨.v4 [127, 0, 0, 1], 4000, 0⟩ { arriving := [.data [71]] },
        .poll [{ key := 0, source := 0, readable := true }]] = some visited := rfl
  obtain ⟨-, -, -, ⟨g, hentries, -, hperm⟩, -, -, -, r', hshutdown, hleft⟩ :=
    books_balance hstart ⟨_, hvisited⟩
  obtain ⟨hslots, -, hsize, -, hcount⟩ := hleft [] r' rfl rfl
  exact ⟨⟨g, hentries, hperm⟩, r', hshutdown, hslots, hsize, hcount⟩

end EventLoop
end Server
end SiteServer
