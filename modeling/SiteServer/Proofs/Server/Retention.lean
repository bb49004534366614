import SiteServer.Proofs.Server.Operations

/-!
# What operations of a server keep

Apart from accepting a client no operation gives a slot to another connection, and apart
from being told which sockets are ready, and heeding that, none touches the notices
(`Retains`).  Each operation is made of a few shared parts, and keeps what these keep.
-/

namespace SiteServer
namespace Server
namespace EventLoop

variable {r r' r'' : EventLoop} {key now : Nat}

/-- Whoever has a slot had it before, the notices stay, and no connection is forgotten. -/
structure Retains (r r' : EventLoop) : Prop where
  slot : ∀ {key s'}, r'.slots.get? key = some s' → ∃ s, r.slots.get? key = some s ∧ s.id = s'.id
  batch_eq : r'.batch = r.batch
  length_le : r.connections.length ≤ r'.connections.length

theorem Retains.refl (r : EventLoop) : Retains r r := ⟨fun hs => ⟨_, hs, rfl⟩, rfl, Nat.le_refl _⟩

theorem Retains.trans (h : Retains r r') (h' : Retains r' r'') : Retains r r'' where
  slot hs := by
    obtain ⟨s', hs', hid'⟩ := h'.slot hs
    obtain ⟨s, hs, hid⟩ := h.slot hs'
    exact ⟨s, hs, hid.trans hid'⟩
  batch_eq := h'.batch_eq.trans h.batch_eq
  length_le := Nat.le_trans h.length_le h'.length_le

theorem Retains.of_slots (hslots : r'.slots = r.slots) (hbatch : r'.batch = r.batch)
    (hlength : r.connections.length ≤ r'.connections.length) : Retains r r' :=
  ⟨fun hs => ⟨_, hslots ▸ hs, rfl⟩, hbatch, hlength⟩

theorem retains_setConnection (r : EventLoop) (id : Nat) (c : Http.Connection) :
    Retains r (r.setConnection id c) :=
  .of_slots rfl rfl (Nat.le_of_eq List.length_set.symm)

theorem retains_updateSlot (r : EventLoop) (key : Nat) {f : Slot → Slot}
    (hf : ∀ s, (f s).id = s.id) : Retains r (r.updateSlot key f) := by
  refine ⟨fun {k s'} hs' => ?_, rfl, Nat.le_refl _⟩
  obtain ⟨s, hs, rfl⟩ := KeyTable.get?_modify_eq_some.mp hs'
  refine ⟨s, hs, ?_⟩
  split
  · exact (hf s).symm
  · rfl

theorem retains_close {reason : ClosingReason} (h : r.close key reason = some r') :
    Retains r r' := by
  rcases close_cases h with ⟨-, rfl⟩ | ⟨slot, deadlines, -, -, rfl⟩
  · exact .refl _
  · exact ⟨fun hs => ⟨_, (KeyTable.get?_remove_eq_some.mp hs).2, rfl⟩, rfl, Nat.le_refl _⟩

theorem retains_putOff (h : r.putOff now key = some r') : Retains r r' := by
  rcases putOff_cases h with ⟨-, rfl⟩ | ⟨_, _, _, -, -, rfl⟩
  · exact .refl _
  · exact .of_slots rfl rfl (Nat.le_refl _)

theorem retains_await {readiness : Readiness} (h : r.await key readiness = some r') :
    Retains r r' := by
  have hupdate := retains_updateSlot r key (f := (·.await readiness)) fun _ => rfl
  rcases await_cases h with ⟨-, rfl⟩ | ⟨slot, -, ⟨-, rfl⟩ | ⟨-, hclose⟩⟩
  · exact .refl _
  · exact hupdate
  · exact hupdate.trans (retains_close hclose)

theorem retains_handOver (r : EventLoop) (key : Nat) : Retains r (r.handOver key) := by
  have hupdate := retains_updateSlot r key (f := Slot.depart) fun _ => rfl
  cases hslot : r.slots.get? key with
  | none =>
    simp only [handOver, hslot]
    exact .refl _
  | some slot =>
    rcases handOver_cases hslot with ⟨pool, -, heq⟩ | ⟨-, heq⟩ <;>
    · rw [heq]
      exact hupdate.trans (.of_slots rfl rfl (Nat.le_refl _))

theorem retains_heed {n : Notice} (h : r.heed now n = some r') : Retains r r' := by
  rcases heed_cases h with ⟨-, rfl⟩ | ⟨slot, -, hcases⟩
  · exact .refl _
  rcases hcases with ⟨-, -, rfl⟩ | ⟨-, -, hclose⟩ | ⟨-, -, -, hread⟩ | ⟨-, -, -, hwrite⟩ |
    ⟨-, -, -, rfl⟩
  · exact retains_updateSlot r n.key fun _ => rfl
  · exact retains_close hclose
  · obtain ⟨c, -, hcases⟩ := receive_cases hread
    have hset := retains_setConnection r slot.id c.read.2
    rcases hcases with ⟨-, rfl⟩ | ⟨_, r₁, -, hput, rfl⟩ | ⟨-, hclose⟩ | ⟨-, hclose⟩ |
      ⟨_, -, hclose⟩
    · exact hset
    · exact hset.trans ((retains_putOff hput).trans (retains_handOver r₁ n.key))
    all_goals exact hset.trans (retains_close hclose)
  · obtain ⟨c, -, hcases⟩ := transmit_cases hwrite
    have hset := fun c' => retains_setConnection r slot.id c'
    rcases hcases with ⟨_, r₁, -, -, hput, hawait⟩ | ⟨_, -, -, hclose⟩ | ⟨_, -, hput⟩ |
      ⟨-, rfl⟩ | ⟨-, hclose⟩
    · exact (hset _).trans ((retains_putOff hput).trans (retains_await hawait))
    · exact (hset _).trans (retains_close hclose)
    · exact (hset _).trans (retains_putOff hput)
    · exact hset _
    · exact (hset _).trans (retains_close hclose)
  · exact .refl _

theorem retains_offerFirst {more : Bool} (h : r.offerFirst = some (r', more)) :
    Retains r r' := by
  rcases offerFirst_cases h with ⟨-, rfl, -⟩ | ⟨t, backlog, -, hcases⟩
  · exact .refl _
  rcases hcases with ⟨-, rfl, -⟩ | ⟨_, _, -, -, hclose, -⟩ | ⟨_, _, -, -, -, rfl, -⟩ |
    ⟨_, -, -, -, rfl, -⟩
  · exact .of_slots rfl rfl (Nat.le_refl _)
  · have hrest : Retains r { r with backlog } := .of_slots rfl rfl (Nat.le_refl _)
    exact hrest.trans (retains_close hclose)
  · exact .of_slots rfl rfl (Nat.le_refl _)
  · exact .refl _

theorem retains_hearFirst (h : r.hearFirst = some r') : Retains r r' := by
  rcases hearFirst_cases h with ⟨-, rfl⟩ | ⟨t, next, messages, -, hcases⟩
  · exact .refl _
  have hrest : Retains r { r with messages } := .of_slots rfl rfl (Nat.le_refl _)
  have hback := hrest.trans
    (retains_updateSlot { r with messages } t.key (f := Slot.comeBack) fun _ => rfl)
  rcases hcases with ⟨-, rfl⟩ | ⟨slot, -, ⟨_, -, hclose⟩ | ⟨_, -, -, hawait⟩⟩
  · exact .of_slots rfl rfl (Nat.le_refl _)
  · exact hback.trans (retains_close hclose)
  · exact hback.trans (retains_await hawait)

theorem retains_endOverdue {t : Ticket} (h : r.endOverdue t = some r') : Retains r r' := by
  have hlate : Retains r (r.updateSlot t.key fun s => { s with deadline := none }) :=
    retains_updateSlot _ _ fun _ => rfl
  rcases endOverdue_cases h with ⟨-, rfl⟩ | ⟨slot, -, ⟨-, rfl⟩ | ⟨-, hclose⟩⟩
  · exact .refl _
  · exact hlate.trans (retains_updateSlot _ _ fun _ => rfl)
  · exact hlate.trans (retains_close hclose)

theorem retains_tick (h : r.tick now = some r') : Retains r r' :=
  tick_induction (P := fun s => Retains r s) h
    (fun _ => .of_slots rfl rfl (Nat.le_refl _))
    fun _ _ _ hs hend => hs.trans (retains_endOverdue hend)

theorem retains_updateStream (r : EventLoop) (id : Nat) (f : Stream → Stream) :
    Retains r (r.updateStream id f) := by
  unfold updateStream
  split
  · exact retains_setConnection r id _
  · exact .refl _

theorem retains_poolStep {e : WorkerPool.Event Job} (h : r.poolStep e = some r') :
    Retains r r' := by
  obtain ⟨pool, -, rfl⟩ := Option.map_eq_some_iff.mp h
  exact .of_slots rfl rfl (Nat.le_refl _)

/-! ## Steps -/

/-- What a step keeps, unless the loop is told of sockets, heeds a notice or accepts a client. -/
theorem retains_step {e : Event} (h : r.step e = some r') :
    Retains r r' ∨ (∃ batch, e = .poll batch) ∨ (∃ now, e = .heed now) ∨
      ∃ now peer stream, e = .accept now peer stream := by
  cases e with
  | poll batch => exact Or.inr (Or.inl ⟨batch, rfl⟩)
  | heed now => exact Or.inr (Or.inr (Or.inl ⟨now, rfl⟩))
  | accept now peer stream => exact Or.inr (Or.inr (Or.inr ⟨now, peer, stream, rfl⟩))
  | arrive id deliveries =>
    obtain rfl := Option.some.inj h
    exact Or.inl (retains_updateStream r id _)
  | expect id acceptances =>
    obtain rfl := Option.some.inj h
    exact Or.inl (retains_updateStream r id _)
  | refuse ids =>
    obtain rfl := Option.some.inj h
    exact Or.inl (.of_slots rfl rfl (Nat.le_refl _))
  | offer =>
    obtain ⟨⟨r'', more⟩, hoffer, rfl⟩ := Option.map_eq_some_iff.mp h
    exact Or.inl (retains_offerFirst hoffer)
  | hear => exact Or.inl (retains_hearFirst h)
  | tick now => exact Or.inl (retains_tick h)
  | post | take | test | pop => exact Or.inl (retains_poolStep h)
  | process worker handle =>
    obtain ⟨backend, t, c, -, -, -, rfl⟩ := process_cases h
    exact Or.inl (.of_slots rfl rfl (Nat.le_of_eq List.length_set.symm))
  | send worker =>
    obtain ⟨t, next, -, rfl⟩ := send_cases h
    exact Or.inl (.of_slots rfl rfl (Nat.le_refl _))

/-- No connection is forgotten. -/
theorem length_connections_le {e : Event} (h : r.step e = some r') :
    r.connections.length ≤ r'.connections.length := by
  rcases retains_step h with hretains | ⟨batch, rfl⟩ | ⟨now, rfl⟩ | ⟨now, peer, stream, rfl⟩
  · exact hretains.length_le
  · simp only [step, Option.ite_none_right_eq_some, Option.some.injEq] at h
    obtain ⟨-, rfl⟩ := h
    exact Nat.le_refl _
  · simp only [step] at h
    split at h
    case h_1 => cases h
    case h_2 n batch _ => exact (retains_heed h).length_le
  · rcases accept_cases h with ⟨-, rfl⟩ | ⟨deadline, deadlines, -, -, rfl⟩
    · exact Nat.le_refl _
    · simp only [List.length_append, List.length_singleton, Nat.le_add_right]

end EventLoop
end Server
end SiteServer
