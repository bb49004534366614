import SiteServer.Proofs.Server.Closings

/-!
# Whom a notice meets

A notice that a socket is ready names a slot by its key, and the loop heeds it for the
connection that has the slot by then.  Within one batch a slot may be given up and taken
again: a message from a worker, which comes before the notice, closes the connection that
the notice is about, and a client that is accepted next gets the same key.

* `heed_spares`: a notice makes no difference but to the connection in its slot.
* `source_or_newcomer`: that is the connection it is about, or one that was accepted since
  the loop was told.
* `heed_spares_unless_newcomer`: so it makes no difference to any other connection, unless that
  one has come since into the slot that the connection it is about has given up.
* `heed_stale_closes_newcomer`: it does make a difference to a newcomer.  A run in which the
  socket of the first client fails and the second client is closed for it.
-/

namespace SiteServer
namespace Server

/-- Whether an event tells the loop which sockets are ready. -/
def Event.isPoll : Event → Bool
  | .poll _ => true
  | _ => false

namespace EventLoop

variable {r r' r'' r₁ r₂ : EventLoop} {key now id : Nat} {s : Slot}

/-! ## Steps within a batch -/

/-- What has not changed at `r` since the loop was told at `r₁` which sockets are ready: a slot
belongs to the connection that had it, or to one that was accepted after that. -/
structure Since (r₁ r : EventLoop) : Prop where
  slot : ∀ {key s'}, r.slots.get? key = some s' →
    (∃ s, r₁.slots.get? key = some s ∧ s.id = s'.id) ∨ r₁.connections.length ≤ s'.id
  batch : ∀ n ∈ r.batch, n ∈ r₁.batch
  length_le : r₁.connections.length ≤ r.connections.length

theorem Since.refl (r : EventLoop) : Since r r :=
  ⟨fun hs => Or.inl ⟨_, hs, rfl⟩, fun _ hn => hn, Nat.le_refl _⟩

theorem Since.retains (h : Since r₁ r) (hretains : Retains r r') : Since r₁ r' where
  slot hs' := by
    obtain ⟨s, hs, hid⟩ := hretains.slot hs'
    rw [← hid]
    exact h.slot hs
  batch n hn := h.batch n (hretains.batch_eq ▸ hn)
  length_le := Nat.le_trans h.length_le hretains.length_le

/-- A client that is accepted is a newcomer. -/
theorem Since.accept (h : Since r₁ r) (hsound : r.slots.Sound) {peer : Net.SocketAddress}
    {stream : Stream} (hstep : r.accept now peer stream = some r') : Since r₁ r' := by
  rcases accept_cases hstep with ⟨-, rfl⟩ | ⟨deadline, deadlines, -, -, rfl⟩
  · exact h
  · refine ⟨fun {key s'} hs' => ?_, h.batch, Nat.le_trans h.length_le (by simp)⟩
    rcases (KeyTable.get?_insert_eq_some hsound).mp hs' with ⟨-, rfl⟩ | ⟨-, hs'⟩
    · exact Or.inr h.length_le
    · exact h.slot hs'

theorem Since.step (h : Since r₁ r) (hsound : r.slots.Sound) {e : Event}
    (he : e.isPoll = false) (hstep : r.step e = some r') : Since r₁ r' := by
  rcases retains_step hstep with hretains | ⟨batch, rfl⟩ | ⟨now, rfl⟩ | ⟨now, peer, stream, rfl⟩
  · exact h.retains hretains
  · cases he
  · simp only [EventLoop.step] at hstep
    split at hstep
    case h_1 => cases hstep
    case h_2 n batch hbatch =>
      have hrest : Since r₁ { r with batch } :=
        ⟨h.slot, fun m hm => h.batch m (hbatch ▸ List.mem_cons_of_mem _ hm), h.length_le⟩
      exact hrest.retains (retains_heed hstep)
  · exact h.accept hsound hstep

theorem Since.run (h : Since r₁ r) (hr : r.Disciplined none) {events : List Event}
    (hevents : ∀ e ∈ events, e.isPoll = false) (hrun : r.run events = some r') :
    Since r₁ r' := by
  induction events generalizing r with
  | nil =>
    obtain rfl := Option.some.inj hrun
    exact h
  | cons e events ih =>
    obtain ⟨next, hstep, hrun⟩ := Option.bind_eq_some_iff.mp hrun
    obtain ⟨he, hevents⟩ := List.forall_mem_cons.mp hevents
    exact ih (h.step hr.sound he hstep) (disciplined_step hr hstep) hevents hrun

/-- What the loop is told is about connections that have slots then. -/
theorem exists_source {batch : List Notice} (hpoll : r.step (.poll batch) = some r₁) {n : Notice}
    (hn : n ∈ r₁.batch) : ∃ s, r₁.slots.get? n.key = some s ∧ s.id = n.source := by
  simp only [EventLoop.step, Option.ite_none_right_eq_some, Option.some.injEq,
    Bool.and_eq_true] at hpoll
  obtain ⟨⟨-, habout⟩, rfl⟩ := hpoll
  have hone := List.all_eq_true.mp habout n hn
  obtain ⟨s, hs⟩ := Option.isSome_iff_exists.mp hone
  exact ⟨s, slot?_eq_some.mp hs⟩

/-- Within a batch a notice meets the connection it is about, or one that was accepted since
the loop was told. -/
theorem source_or_newcomer {batch : List Notice} (hpoll : r.step (.poll batch) = some r₁)
    (hsince : Since r₁ r₂) {n : Notice} (hn : n ∈ r₂.batch) (hs : r₂.slots.get? n.key = some s) :
    s.id = n.source ∨ r₁.connections.length ≤ s.id := by
  obtain ⟨s₁, hs₁, hsource⟩ := exists_source hpoll (hsince.batch n hn)
  refine (hsince.slot hs).imp_left fun ⟨s₀, hs₀, hid⟩ => ?_
  obtain rfl : s₀ = s₁ := Option.some.inj (hs₀.symm.trans hs₁)
  exact hid.symm.trans hsource

/-- If a newcomer has the slot, then the connection that the notice is about was closed since the
loop was told. -/
theorem exists_closings_source {batch : List Notice} (hpoll : r.step (.poll batch) = some r₁)
    (hsince : Since r₁ r₂) (h₁ : r₁.Tallied) (h₂ : r₂.Tallied) {n : Notice}
    (hn : n ∈ r₂.batch) (hs : r₂.slots.get? n.key = some s) (hne : s.id ≠ n.source) :
    r₁.closings n.source = [] ∧ ∃ reason, r₂.closings n.source = [reason] := by
  obtain ⟨s₁, hs₁, hsource⟩ := exists_source hpoll (hsince.batch n hn)
  have hknown : n.source < r₁.connections.length := hsource ▸ h₁.known hs₁
  have hgone : r₂.IsGone n.source := by
    intro key' s' hs' hid'
    rcases hsince.slot hs' with ⟨s₀, hs₀, hid⟩ | hle
    · -- it had no slot but the one that is the newcomer's now
      obtain rfl : key' = n.key := h₁.distinct hs₀ hs₁ (by rw [hid, hid', hsource])
      obtain rfl : s = s' := Option.some.inj (hs.symm.trans hs')
      exact hne hid'
    · omega
  refine ⟨hsource ▸ h₁.held hs₁, ?_⟩
  exact List.length_eq_one_iff.mp (h₂.gone (Nat.lt_of_lt_of_le hknown hsince.length_le) hgone)

/-! ## Operations that leave a connection alone -/

/-- A connection is the same, has the same slot if it had one, and was not closed. -/
structure Spares (id : Nat) (r r' : EventLoop) : Prop where
  connection : r'.connections[id]? = r.connections[id]?
  slot : ∀ {key s}, s.id = id → (r'.slots.get? key = some s ↔ r.slots.get? key = some s)
  closed : ∀ {reason}, (id, reason) ∈ r'.closed ↔ (id, reason) ∈ r.closed

theorem Spares.refl (id : Nat) (r : EventLoop) : Spares id r r := ⟨rfl, fun _ => .rfl, .rfl⟩

theorem Spares.trans (h : Spares id r r') (h' : Spares id r' r'') : Spares id r r'' where
  connection := h'.connection.trans h.connection
  slot hid := (h'.slot hid).trans (h.slot hid)
  closed := h'.closed.trans h.closed

theorem Spares.of_slots (hconnections : r'.connections = r.connections)
    (hslots : r'.slots = r.slots) (hclosed : r'.closed = r.closed) : Spares id r r' :=
  ⟨by rw [hconnections], fun _ => by rw [hslots], by rw [hclosed]⟩

/-- That another connection has the slot under a key, or none has. -/
def Foreign (r : EventLoop) (key id : Nat) : Prop := ∀ s, r.slots.get? key = some s → s.id ≠ id

theorem Retains.foreign (h : Retains r r') (hkey : r.Foreign key id) : r'.Foreign key id := by
  intro s' hs' hid'
  obtain ⟨s, hs, hid⟩ := h.slot hs'
  exact hkey s hs (hid.trans hid')

theorem spares_setConnection (r : EventLoop) {other : Nat} (h : other ≠ id)
    (c : Http.Connection) : Spares id r (r.setConnection other c) :=
  ⟨List.getElem?_set_ne h, fun _ => .rfl, .rfl⟩

theorem spares_updateSlot (h : r.Foreign key id) {f : Slot → Slot} (hf : ∀ s, (f s).id = s.id) :
    Spares id r (r.updateSlot key f) := by
  refine ⟨rfl, fun {k s} hid => ?_, .rfl⟩
  rw [get?_updateSlot]
  split
  case isFalse => exact .rfl
  case isTrue hk =>
    subst hk
    refine ⟨fun hs => ?_, fun hs => absurd hid (h s hs)⟩
    obtain ⟨s₀, hs₀, rfl⟩ := Option.map_eq_some_iff.mp hs
    exact absurd ((hf s₀).symm.trans hid) (h s₀ hs₀)

theorem spares_close (h : r.Foreign key id) {reason : ClosingReason}
    (hclose : r.close key reason = some r') : Spares id r r' := by
  rcases close_cases hclose with ⟨-, rfl⟩ | ⟨slot, deadlines, hslot, -, rfl⟩
  · exact .refl id _
  · have hne : slot.id ≠ id := h slot hslot
    refine ⟨rfl, fun {k s} hid => ?_, fun {reason'} => ?_⟩
    · rw [KeyTable.get?_remove_eq_some]
      refine ⟨fun hs => hs.2, fun hs => ⟨?_, hs⟩⟩
      rintro rfl
      exact h s hs hid
    · rw [List.mem_cons]
      exact or_iff_right fun heq => hne (congrArg Prod.fst heq).symm

theorem spares_putOff (hput : r.putOff now key = some r') : Spares id r r' := by
  rcases putOff_cases hput with ⟨-, rfl⟩ | ⟨_, _, _, -, -, rfl⟩
  · exact .refl id _
  · exact .of_slots rfl rfl rfl

theorem spares_await (h : r.Foreign key id) {readiness : Readiness}
    (hawait : r.await key readiness = some r') : Spares id r r' := by
  have hupdate : Spares id r (r.updateSlot key (·.await readiness)) :=
    spares_updateSlot h fun _ => rfl
  have hforeign : (r.updateSlot key (·.await readiness)).Foreign key id :=
    (retains_updateSlot r key (f := (·.await readiness)) fun _ => rfl).foreign h
  rcases await_cases hawait with ⟨-, rfl⟩ | ⟨slot, -, ⟨-, rfl⟩ | ⟨-, hclose⟩⟩
  · exact .refl id _
  · exact hupdate
  · exact hupdate.trans (spares_close hforeign hclose)

theorem spares_handOver (h : r.Foreign key id) : Spares id r (r.handOver key) := by
  have hupdate : Spares id r (r.updateSlot key Slot.depart) := spares_updateSlot h fun _ => rfl
  cases hslot : r.slots.get? key with
  | none =>
    simp only [handOver, hslot]
    exact .refl id _
  | some slot =>
    rcases handOver_cases hslot with ⟨pool, -, heq⟩ | ⟨-, heq⟩ <;>
    · rw [heq]
      exact hupdate.trans (.of_slots rfl rfl rfl)

/-- A notice makes no difference but to the connection in its slot. -/
theorem heed_spares {n : Notice} (hheed : r.heed now n = some r') (h : r.Foreign n.key id) :
    Spares id r r' := by
  rcases heed_cases hheed with ⟨-, rfl⟩ | ⟨slot, hslot, hcases⟩
  · exact .refl id _
  have hset : ∀ c, Spares id r (r.setConnection slot.id c) ∧
      (r.setConnection slot.id c).Foreign n.key id := fun c =>
    ⟨spares_setConnection r (h slot hslot) c, (retains_setConnection r slot.id c).foreign h⟩
  rcases hcases with ⟨-, -, rfl⟩ | ⟨-, -, hclose⟩ | ⟨-, -, -, hread⟩ | ⟨-, -, -, hwrite⟩ |
    ⟨-, -, -, rfl⟩
  · exact spares_updateSlot h fun _ => rfl
  · exact spares_close h hclose
  · obtain ⟨c, -, hcases⟩ := receive_cases hread
    obtain ⟨hspares, hforeign⟩ := hset c.read.2
    rcases hcases with ⟨-, rfl⟩ | ⟨_, r₁, -, hput, rfl⟩ | ⟨-, hclose⟩ | ⟨-, hclose⟩ |
      ⟨_, -, hclose⟩
    · exact hspares
    · exact hspares.trans ((spares_putOff hput).trans
        (spares_handOver ((retains_putOff hput).foreign hforeign)))
    all_goals exact hspares.trans (spares_close hforeign hclose)
  · obtain ⟨c, -, hcases⟩ := transmit_cases hwrite
    rcases hcases with ⟨_, r₁, -, -, hput, hawait⟩ | ⟨_, -, -, hclose⟩ | ⟨_, -, hput⟩ |
      ⟨-, rfl⟩ | ⟨-, hclose⟩
    · obtain ⟨hspares, hforeign⟩ := hset c.write.2.reset
      exact hspares.trans ((spares_putOff hput).trans
        (spares_await ((retains_putOff hput).foreign hforeign) hawait))
    · exact (hset _).1.trans (spares_close (hset _).2 hclose)
    · exact (hset _).1.trans (spares_putOff hput)
    · exact (hset _).1
    · exact (hset _).1.trans (spares_close (hset _).2 hclose)
  · exact .refl id _

/-! ## Whom a notice spares -/

/-- **A notice makes no difference to any other connection**, whatever happened since the loop was
told, unless that one was accepted since, into the slot of the connection that the notice is
about, which was closed before. -/
theorem heed_spares_unless_newcomer {r₀ : EventLoop} {config : Config} {service : Http.Service}
    {credentials : Store.Credentials} {storage : Store.Storage} {handles : List Store.Backend}
    (hstart : start config service credentials storage handles = .ok r₀)
    (hreach : Reachable r₀ r) {batch rest : List Notice}
    (hpoll : r.step (.poll batch) = some r₁) {events : List Event}
    (hevents : ∀ e ∈ events, e.isPoll = false) (hrun : r₁.run events = some r₂) {n : Notice}
    (hn : r₂.batch = n :: rest) (hstep : r₂.step (.heed now) = some r') (hother : id ≠ n.source) :
    Spares id r₂ r' ∨
      (∃ s, r₂.slots.get? n.key = some s ∧ s.id = id) ∧ r₁.connections.length ≤ id ∧
        r₁.closings n.source = [] ∧ ∃ reason, r₂.closings n.source = [reason] := by
  have hreach₁ : Reachable r₀ r₁ := hreach.step hpoll
  have hsince : Since r₁ r₂ :=
    (Since.refl r₁).run (disciplined_of_reachable hstart hreach₁) hevents hrun
  have hmem : n ∈ r₂.batch := hn ▸ List.mem_cons_self
  by_cases hslot : ∃ s, r₂.slots.get? n.key = some s ∧ s.id = id
  · refine Or.inr ⟨hslot, ?_⟩
    obtain ⟨s, hs, rfl⟩ := hslot
    exact ⟨(source_or_newcomer hpoll hsince hmem hs).resolve_left hother,
      exists_closings_source hpoll hsince (tallied_of_reachable hstart hreach₁)
        (tallied_of_reachable hstart (hreach₁.trans ⟨events, hrun⟩)) hmem hs hother⟩
  · have hforeign : ({ r₂ with batch := rest } : EventLoop).Foreign n.key id :=
      fun s hs hid => hslot ⟨s, hs, hid⟩
    simp only [EventLoop.step, hn] at hstep
    have hrest : Spares id r₂ { r₂ with batch := rest } := .of_slots rfl rfl rfl
    exact Or.inl (hrest.trans (heed_spares hstep hforeign))

/-- A server whose clients have little room. -/
def narrow : EventLoop := { bare with config := { buffers := { readCapacity := 4 } } }

/-- Two clients come. -/
def twoClients : List Event :=
  [.accept 0 ⟨.v4 [127, 0, 0, 1], 4000, 0⟩ {}, .accept 0 ⟨.v4 [127, 0, 0, 1], 4001, 0⟩ {}]

/-- If the socket of the first client fails, that client is closed and the second one is spared. -/
theorem heed_spares_unless_newcomer_of_two_clients :
    ∃ r r₁ r', narrow.run twoClients = some r ∧
      r.step (.poll [{ key := 0, source := 0, hangUp := true }]) = some r₁ ∧
      r₁.step (.heed 1) = some r' ∧ r'.closings 0 = [.hangUp] ∧ Spares 1 r₁ r' := by
  have hstart : start narrow.config narrow.service {} {} [.memory] = .ok narrow := rfl
  have htold : (narrow.run (twoClients ++ [.poll [{ key := 0, source := 0, hangUp := true }]])).map
      (fun r => (r.batch, r.connections.length))
        = some ([{ key := 0, source := 0, hangUp := true }], 2) := by decide +kernel
  have hclosed : (narrow.run (twoClients ++ [.poll [{ key := 0, source := 0, hangUp := true }]] ++
      [.heed 1])).map (·.closings 0) = some [.hangUp] := by decide +kernel
  obtain ⟨r', hrun', hclosed⟩ := Option.map_eq_some_iff.mp hclosed
  obtain ⟨r₁, hrun₁, hheed⟩ := run_concat_eq_some hrun'
  obtain ⟨r, hrun, hpoll⟩ := run_concat_eq_some hrun₁
  rw [hrun₁] at htold
  obtain ⟨hbatch, hlength⟩ := Prod.mk.inj (Option.some.inj htold)
  have hspares : Spares 1 r₁ r' ∨ _ ∧ r₁.connections.length ≤ 1 ∧ _ :=
    heed_spares_unless_newcomer hstart ⟨_, hrun⟩ hpoll (List.forall_mem_nil _) rfl hbatch hheed
      (by decide)
  refine ⟨r, r₁, r', hrun, hpoll, hheed, hclosed, hspares.resolve_right ?_⟩
  rintro ⟨-, hle, -⟩
  omega

/-- The first client sends an octet and its idle time passes while a worker has the connection.
Then its socket fails, and a second client comes.  The loop is told of all this at once: it
hears from the worker, accepts the client and heeds the notice, in this order. -/
def staleNotice : List Event :=
  [.accept 0 ⟨.v4 [127, 0, 0, 1], 4000, 0⟩ { arriving := [.data [71]] },
    .poll [{ key := 0, source := 0, readable := true }], .heed 1,
    .post, .take 0, .test 0, .pop 0, .process 0 0, .send 0, .tick 100,
    .poll [{ key := 0, source := 0, hangUp := true }],
    .hear, .accept 100 ⟨.v4 [127, 0, 0, 1], 4001, 0⟩ {}, .heed 100]

/-- The second client is closed because the socket of the first one failed: nothing that the loop
is told in this run of a server that was just started is about the second. -/
theorem heed_stale_closes_newcomer :
    start narrow.config narrow.service {} {} [.memory] = .ok narrow ∧
      (narrow.run staleNotice).map (·.closings 1) = some [.hangUp] ∧
      ∀ batch, .poll batch ∈ staleNotice → ∀ n ∈ batch, n.source ≠ 1 := by
  refine ⟨rfl, by decide +kernel, fun batch hbatch n hn => ?_⟩
  simp only [staleNotice, List.mem_cons, reduceCtorEq, Event.poll.injEq, List.not_mem_nil, or_false,
    false_or] at hbatch
  rcases hbatch with rfl | rfl <;>
  · rw [List.mem_singleton.mp hn]
    decide

end EventLoop
end Server
end SiteServer
