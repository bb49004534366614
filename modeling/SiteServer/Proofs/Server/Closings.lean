import Mathlib.Logic.Relation
import SiteServer.Proofs.Server.Books

/-!
# Every connection is closed once

Whatever a server does, each of its operations comes to a few elementary changes of its slots,
one after another (`Change`, `changes_step`): a slot changes but not its connection, a connection
is closed, a client is accepted.  What each of these keeps every step keeps.

A connection that has a slot was not closed, and one that has none any more was closed once
(`Tallied`).  So a connection that was closed for some reason is never closed again, and never has
a slot again (`Tallied.closings_eq`).
-/

namespace SiteServer
namespace Server

/-- Whether the loop looks at its slots in an event. -/
def Event.isOfSlots : Event → Bool
  | .heed _ | .accept _ _ _ | .offer | .hear | .tick _ => true
  | _ => false

namespace EventLoop

variable {r r' r'' r₀ : EventLoop} {key now id : Nat} {reason : ClosingReason}

/-- The reasons for which a connection was closed, the last in front. -/
def closings (r : EventLoop) (id : Nat) : List ClosingReason :=
  (r.closed.filter (·.1 = id)).map (·.2)

theorem mem_closings : reason ∈ r.closings id ↔ (id, reason) ∈ r.closed := by
  simp [closings]

/-! ## Elementary changes -/

/-- An elementary change of the slots, or one of something else. -/
inductive Change : EventLoop → EventLoop → Prop
  | elsewhere {r r' : EventLoop} (hslots : r'.slots = r.slots) (hclosed : r'.closed = r.closed)
    (hlength : r'.connections.length = r.connections.length) : Change r r'
  | slot (r : EventLoop) (key : Nat) {f : Slot → Slot} (hf : ∀ s, (f s).id = s.id) :
    Change r (r.updateSlot key f)
  | closing {r r' : EventLoop} {key : Nat} {reason : ClosingReason}
    (h : r.close key reason = some r') : Change r r'
  | accepting {r r' : EventLoop} {now : Nat} {peer : Net.SocketAddress} {stream : Stream}
    (h : r.accept now peer stream = some r') : Change r r'

/-- Some elementary changes, one after another. -/
abbrev Changes : EventLoop → EventLoop → Prop := Relation.ReflTransGen Change

theorem changes_elsewhere (hslots : r'.slots = r.slots) (hclosed : r'.closed = r.closed)
    (hlength : r'.connections.length = r.connections.length) : Changes r r' :=
  .single (.elsewhere hslots hclosed hlength)

theorem changes_setConnection (r : EventLoop) (id : Nat) (c : Http.Connection) :
    Changes r (r.setConnection id c) :=
  changes_elsewhere rfl rfl List.length_set

theorem changes_putOff (h : r.putOff now key = some r') : Changes r r' := by
  rcases putOff_cases h with ⟨-, rfl⟩ | ⟨_, _, _, -, -, rfl⟩
  · exact .refl
  · exact changes_elsewhere rfl rfl rfl

theorem changes_await {readiness : Readiness} (h : r.await key readiness = some r') :
    Changes r r' := by
  have hupdate : Change r (r.updateSlot key (·.await readiness)) := .slot r key fun _ => rfl
  rcases await_cases h with ⟨-, rfl⟩ | ⟨slot, -, ⟨-, rfl⟩ | ⟨-, hclose⟩⟩
  · exact .refl
  · exact .single hupdate
  · exact .head hupdate (.single (.closing hclose))

theorem changes_handOver (r : EventLoop) (key : Nat) : Changes r (r.handOver key) := by
  have hupdate : Change r (r.updateSlot key Slot.depart) := .slot r key fun _ => rfl
  cases hslot : r.slots.get? key with
  | none =>
    simp only [handOver, hslot]
    exact .refl
  | some slot =>
    rcases handOver_cases hslot with ⟨pool, -, heq⟩ | ⟨-, heq⟩ <;>
    · rw [heq]
      exact .head hupdate (changes_elsewhere rfl rfl rfl)

theorem changes_heed {n : Notice} (h : r.heed now n = some r') : Changes r r' := by
  rcases heed_cases h with ⟨-, rfl⟩ | ⟨slot, -, hcases⟩
  · exact .refl
  rcases hcases with ⟨-, -, rfl⟩ | ⟨-, -, hclose⟩ | ⟨-, -, -, hread⟩ | ⟨-, -, -, hwrite⟩ |
    ⟨-, -, -, rfl⟩
  · exact .single (.slot r n.key fun _ => rfl)
  · exact .single (.closing hclose)
  · obtain ⟨c, -, hcases⟩ := receive_cases hread
    have hset := changes_setConnection r slot.id c.read.2
    rcases hcases with ⟨-, rfl⟩ | ⟨_, r₁, -, hput, rfl⟩ | ⟨-, hclose⟩ | ⟨-, hclose⟩ |
      ⟨_, -, hclose⟩
    · exact hset
    · exact hset.trans ((changes_putOff hput).trans (changes_handOver r₁ n.key))
    all_goals exact hset.tail (.closing hclose)
  · obtain ⟨c, -, hcases⟩ := transmit_cases hwrite
    have hset := fun c' => changes_setConnection r slot.id c'
    rcases hcases with ⟨_, r₁, -, -, hput, hawait⟩ | ⟨_, -, -, hclose⟩ | ⟨_, -, hput⟩ |
      ⟨-, rfl⟩ | ⟨-, hclose⟩
    · exact (hset _).trans ((changes_putOff hput).trans (changes_await hawait))
    · exact (hset _).tail (.closing hclose)
    · exact (hset _).trans (changes_putOff hput)
    · exact hset _
    · exact (hset _).tail (.closing hclose)
  · exact .refl

theorem changes_offerFirst {more : Bool} (h : r.offerFirst = some (r', more)) : Changes r r' := by
  rcases offerFirst_cases h with ⟨-, rfl, -⟩ | ⟨t, backlog, -, hcases⟩
  · exact .refl
  rcases hcases with ⟨-, rfl, -⟩ | ⟨_, _, -, -, hclose, -⟩ | ⟨_, _, -, -, -, rfl, -⟩ |
    ⟨_, -, -, -, rfl, -⟩
  · exact changes_elsewhere rfl rfl rfl
  · have hrest : Change r { r with backlog } := .elsewhere rfl rfl rfl
    exact .head hrest (.single (.closing hclose))
  · exact changes_elsewhere rfl rfl rfl
  · exact .refl

theorem changes_hearFirst (h : r.hearFirst = some r') : Changes r r' := by
  rcases hearFirst_cases h with ⟨-, rfl⟩ | ⟨t, next, messages, -, hcases⟩
  · exact .refl
  have hrest : Changes r { r with messages } := changes_elsewhere rfl rfl rfl
  have hback : Changes r ({ r with messages }.updateSlot t.key Slot.comeBack) :=
    hrest.tail (.slot _ t.key fun _ => rfl)
  rcases hcases with ⟨-, rfl⟩ | ⟨slot, -, ⟨_, -, hclose⟩ | ⟨_, -, -, hawait⟩⟩
  · exact hrest
  · exact hback.tail (.closing hclose)
  · exact hback.trans (changes_await hawait)

theorem changes_endOverdue {t : Ticket} (h : r.endOverdue t = some r') : Changes r r' := by
  have hlate : Changes r (r.updateSlot t.key fun s => { s with deadline := none }) :=
    .single (.slot _ _ fun _ => rfl)
  rcases endOverdue_cases h with ⟨-, rfl⟩ | ⟨slot, -, ⟨-, rfl⟩ | ⟨-, hclose⟩⟩
  · exact .refl
  · exact hlate.tail (.slot _ _ fun _ => rfl)
  · exact hlate.tail (.closing hclose)

theorem changes_tick (h : r.tick now = some r') : Changes r r' :=
  tick_induction (P := fun s => Changes r s) h
    (fun _ => changes_elsewhere rfl rfl rfl)
    fun _ _ _ hs hend => hs.trans (changes_endOverdue hend)

/-! ## Steps -/

/-- An event that is not about slots leaves them and what was closed as they are. -/
theorem elsewhere_of_step {e : Event} (he : e.isOfSlots = false) (hstep : r.step e = some r') :
    r'.slots = r.slots ∧ r'.closed = r.closed ∧
      r'.connections.length = r.connections.length := by
  have hstream : ∀ id f, (r.updateStream id f).slots = r.slots ∧
      (r.updateStream id f).closed = r.closed ∧
      (r.updateStream id f).connections.length = r.connections.length := by
    intro id f
    unfold updateStream
    split
    · exact ⟨rfl, rfl, List.length_set⟩
    · exact ⟨rfl, rfl, rfl⟩
  cases e with
  | arrive id deliveries =>
    obtain rfl := Option.some.inj hstep
    exact hstream id _
  | expect id acceptances =>
    obtain rfl := Option.some.inj hstep
    exact hstream id _
  | refuse ids =>
    obtain rfl := Option.some.inj hstep
    exact ⟨rfl, rfl, rfl⟩
  | poll batch =>
    obtain ⟨-, hstep⟩ := Option.ite_none_right_eq_some.mp hstep
    obtain rfl := Option.some.inj hstep
    exact ⟨rfl, rfl, rfl⟩
  | post | take | test | pop =>
    obtain ⟨pool, -, rfl⟩ := Option.map_eq_some_iff.mp hstep
    exact ⟨rfl, rfl, rfl⟩
  | process worker handle =>
    obtain ⟨backend, t, c, -, -, -, rfl⟩ := process_cases hstep
    exact ⟨rfl, rfl, List.length_set⟩
  | send worker =>
    obtain ⟨t, next, -, rfl⟩ := send_cases hstep
    exact ⟨rfl, rfl, rfl⟩
  | heed | accept | offer | hear | tick => cases he

/-- Every step is some elementary changes, one after another. -/
theorem changes_step {e : Event} (hstep : r.step e = some r') : Changes r r' := by
  cases he : e.isOfSlots with
  | false =>
    obtain ⟨hslots, hclosed, hlength⟩ := elsewhere_of_step he hstep
    exact changes_elsewhere hslots hclosed hlength
  | true =>
    cases e with
    | heed now =>
      simp only [step] at hstep
      split at hstep
      case h_1 => cases hstep
      case h_2 n batch _ =>
        have hrest : Change r { r with batch } := .elsewhere rfl rfl rfl
        exact .head hrest (changes_heed hstep)
    | accept now peer stream => exact .single (.accepting hstep)
    | offer =>
      obtain ⟨⟨s, more⟩, hoffer, rfl⟩ := Option.map_eq_some_iff.mp hstep
      exact changes_offerFirst hoffer
    | hear => exact changes_hearFirst hstep
    | tick now => exact changes_tick hstep
    | arrive | expect | refuse | poll | post | take | test | pop | process | send => cases he

theorem changes_run {events : List Event} (hrun : r.run events = some r') : Changes r r' := by
  induction events generalizing r with
  | nil =>
    obtain rfl := Option.some.inj hrun
    exact .refl
  | cons e events ih =>
    obtain ⟨r₁, hstep, hrun⟩ := Option.bind_eq_some_iff.mp hrun
    exact (changes_step hstep).trans (ih hrun)

/-! ## The tally -/

/-- No slot has the connection. -/
def IsGone (r : EventLoop) (id : Nat) : Prop :=
  ∀ key s, r.slots.get? key = some s → s.id ≠ id

/-- A connection that has a slot was not closed, and one that has none was closed once. -/
structure Tallied (r : EventLoop) : Prop where
  sound : r.slots.Sound
  known : ∀ {key s}, r.slots.get? key = some s → s.id < r.connections.length
  distinct : ∀ {key key' s s'}, r.slots.get? key = some s → r.slots.get? key' = some s' →
    s.id = s'.id → key = key'
  held : ∀ {key s}, r.slots.get? key = some s → r.closings s.id = []
  gone : ∀ {id}, id < r.connections.length → r.IsGone id → (r.closings id).length = 1
  fresh : ∀ {id}, r.connections.length ≤ id → r.closings id = []

theorem Tallied.congr (h : r.Tallied) (hslots : r'.slots = r.slots) (hclosed : r'.closed = r.closed)
    (hlength : r'.connections.length = r.connections.length) : r'.Tallied := by
  have hsame : ∀ id, r'.closings id = r.closings id := fun id => by rw [closings, hclosed, closings]
  have hback : ∀ {key s}, r'.slots.get? key = some s → r.slots.get? key = some s :=
    fun hs => hslots ▸ hs
  refine ⟨hslots ▸ h.sound, fun hs => hlength ▸ h.known (hback hs),
    fun hs hs' => h.distinct (hback hs) (hback hs'), fun hs => (hsame _).trans (h.held (hback hs)),
    fun hid hgone => ?_, fun hid => (hsame _).trans (h.fresh (hlength ▸ hid))⟩
  rw [hsame]
  refine h.gone (hlength ▸ hid) fun key s hs => hgone key s ?_
  rwa [hslots]

theorem Tallied.updateSlot (h : r.Tallied) (key : Nat) {f : Slot → Slot}
    (hf : ∀ s, (f s).id = s.id) : (r.updateSlot key f).Tallied := by
  have hback : ∀ {k s'}, (r.updateSlot key f).slots.get? k = some s' →
      ∃ s, r.slots.get? k = some s ∧ s'.id = s.id := by
    intro k s' hs'
    obtain ⟨s, hs, hid⟩ := (retains_updateSlot r key hf).slot hs'
    exact ⟨s, hs, hid.symm⟩
  refine ⟨KeyTable.sound_modify h.sound key f, fun hs' => ?_, fun hs hs' hid => ?_, fun hs' => ?_,
    fun hid hgone => h.gone hid fun k s hs => ?_, h.fresh⟩
  · obtain ⟨s, hs, hid⟩ := hback hs'
    exact hid ▸ h.known hs
  · obtain ⟨u, hu, huid⟩ := hback hs
    obtain ⟨u', hu', huid'⟩ := hback hs'
    exact h.distinct hu hu' (by rw [← huid, ← huid', hid])
  · obtain ⟨s, hs, hid⟩ := hback hs'
    exact hid ▸ h.held hs
  · have hfound : (r.updateSlot key f).slots.get? k = some (if k = key then f s else s) :=
      KeyTable.get?_modify_eq_some.mpr ⟨s, hs, rfl⟩
    have hother := hgone k _ hfound
    split at hother
    · rwa [hf] at hother
    · exact hother

/-- The connection that is closed is told of once more. -/
theorem closings_close {slot : Slot} (hslot : r.slots.get? key = some slot)
    (hclose : r.close key reason = some r') (id : Nat) :
    r'.closings id = if slot.id = id then reason :: r.closings id else r.closings id := by
  rcases close_cases hclose with ⟨hnone, -⟩ | ⟨slot', deadlines, hslot', -, rfl⟩
  · rw [hslot] at hnone
    cases hnone
  · obtain rfl := Option.some.inj (hslot.symm.trans hslot')
    simp only [closings, List.filter_cons, decide_eq_true_eq]
    split <;> rfl

theorem Tallied.close (h : r.Tallied) (hclose : r.close key reason = some r') : r'.Tallied := by
  cases hslot : r.slots.get? key with
  | none =>
    rcases close_cases hclose with ⟨-, rfl⟩ | ⟨slot, _, hsome, -, -⟩
    · exact h
    · rw [hslot] at hsome
      cases hsome
  | some slot =>
    have hclosings := closings_close hslot hclose
    have hknown := h.known hslot
    rcases close_cases hclose with ⟨hnone, -⟩ | ⟨slot', deadlines, hslot', -, rfl⟩
    · rw [hslot] at hnone
      cases hnone
    have hback : ∀ {k s}, (r.slots.remove key).get? k = some s ↔
        k ≠ key ∧ r.slots.get? k = some s := KeyTable.get?_remove_eq_some
    refine ⟨KeyTable.sound_remove h.sound key, fun hs => h.known (hback.mp hs).2,
      fun hs hs' => h.distinct (hback.mp hs).2 (hback.mp hs').2, fun {k s} hs => ?_,
      fun {id} hid hgone => ?_, fun {id} hid => ?_⟩
    · obtain ⟨hk, hs⟩ := hback.mp hs
      have hother : slot.id ≠ s.id := fun heq => hk (h.distinct hs hslot heq.symm)
      rw [hclosings, if_neg hother, h.held hs]
    · rw [hclosings]
      split
      case isTrue heq =>
        rw [← heq, h.held hslot, List.length_singleton]
      case isFalse hne =>
        refine h.gone hid fun k s hs => ?_
        by_cases hk : k = key
        · subst hk
          obtain rfl := Option.some.inj (hslot.symm.trans hs)
          exact hne
        · exact hgone k s (hback.mpr ⟨hk, hs⟩)
    · have hle : r.connections.length ≤ id := hid
      rw [hclosings, if_neg (by omega), h.fresh hle]

theorem Tallied.accept (h : r.Tallied) {peer : Net.SocketAddress} {stream : Stream}
    (hstep : r.accept now peer stream = some r') : r'.Tallied := by
  rcases accept_cases hstep with ⟨-, rfl⟩ | ⟨deadline, deadlines, -, -, rfl⟩
  · exact h
  have hfound : ∀ {k s}, (r.slots.insert (.opened r.connections.length deadline)).get? k = some s ↔
      (k = r.slots.nextKey ∧ s = .opened r.connections.length deadline) ∨
        (k ≠ r.slots.nextKey ∧ r.slots.get? k = some s) :=
    KeyTable.get?_insert_eq_some h.sound
  have hnew : (Slot.opened r.connections.length deadline).id = r.connections.length := rfl
  have hlength : ∀ c, (r.connections ++ [c]).length = r.connections.length + 1 := by simp
  refine ⟨KeyTable.sound_insert h.sound _, fun hs => ?_, fun {k k' s s'} hs hs' hid => ?_,
    fun hs => ?_, fun {id} hid hgone => ?_, fun {id} hid => h.fresh ?_⟩
  · show _ < (r.connections ++ [_]).length
    rw [hlength]
    rcases hfound.mp hs with ⟨-, rfl⟩ | ⟨-, hs⟩
    · exact Nat.lt_succ_self _
    · exact Nat.lt_succ_of_lt (h.known hs)
  · rcases hfound.mp hs with ⟨hk, rfl⟩ | ⟨-, hs⟩ <;> rcases hfound.mp hs' with ⟨hk', rfl⟩ | ⟨-, hs'⟩
    · exact hk.trans hk'.symm
    · exact absurd hid.symm (hnew ▸ Nat.ne_of_lt (h.known hs'))
    · exact absurd hid (hnew ▸ Nat.ne_of_lt (h.known hs))
    · exact h.distinct hs hs' hid
  · rcases hfound.mp hs with ⟨-, rfl⟩ | ⟨-, hs⟩
    · exact h.fresh (Nat.le_refl _)
    · exact h.held hs
  · have hother : id ≠ r.connections.length :=
      (hgone _ _ (hfound.mpr (Or.inl ⟨rfl, rfl⟩))).symm
    have hid : id < (r.connections ++ [_]).length := hid
    rw [hlength] at hid
    refine h.gone (by omega) fun k s hs => hgone k s (hfound.mpr (Or.inr ⟨?_, hs⟩))
    rintro rfl
    rw [KeyTable.get?_nextKey h.sound] at hs
    cases hs
  · have hid : (r.connections ++ [_]).length ≤ id := hid
    rw [hlength] at hid
    omega

theorem Tallied.changes (h : r.Tallied) (hchanges : Changes r r') : r'.Tallied := by
  induction hchanges with
  | refl => exact h
  | tail _ hchange ih =>
    cases hchange with
    | elsewhere hslots hclosed hlength => exact ih.congr hslots hclosed hlength
    | slot key hf => exact ih.updateSlot key hf
    | closing hclose => exact ih.close hclose
    | accepting hstep => exact ih.accept hstep

/-- What was closed is not forgotten. -/
theorem closed_suffix (hchanges : Changes r r') : r.closed <:+ r'.closed := by
  induction hchanges with
  | refl => exact ⟨[], rfl⟩
  | tail _ hchange ih =>
    cases hchange with
    | elsewhere _ hclosed _ => exact hclosed ▸ ih
    | slot => exact ih
    | closing hclose =>
      rcases close_cases hclose with ⟨-, rfl⟩ | ⟨slot, deadlines, -, -, rfl⟩
      · exact ih
      · exact ih.trans (List.suffix_cons _ _)
    | accepting hstep =>
      rcases accept_cases hstep with ⟨-, rfl⟩ | ⟨_, _, -, -, rfl⟩ <;> exact ih

theorem Tallied.lt_of_closed (h : r.Tallied) (hclosed : (id, reason) ∈ r.closed) :
    id < r.connections.length := by
  by_contra hnew
  rw [← mem_closings, h.fresh (Nat.le_of_not_lt hnew)] at hclosed
  cases hclosed

/-- A connection that was closed was closed for one reason, and has no slot. -/
theorem Tallied.closings_eq (h : r.Tallied) (hclosed : (id, reason) ∈ r.closed) :
    r.closings id = [reason] ∧ r.IsGone id := by
  have hmem := mem_closings.mpr hclosed
  have hgone : r.IsGone id := by
    rintro key s hs rfl
    rw [h.held hs] at hmem
    cases hmem
  obtain ⟨only, honly⟩ := List.length_eq_one_iff.mp (h.gone (h.lt_of_closed hclosed) hgone)
  rw [honly, List.mem_singleton] at hmem
  exact ⟨hmem ▸ honly, hgone⟩

/-- No connection is closed twice. -/
theorem Tallied.length_closings_le (h : r.Tallied) (id : Nat) : (r.closings id).length ≤ 1 := by
  cases hclosings : r.closings id with
  | nil => exact Nat.zero_le 1
  | cons reason rest =>
    have hmem : (id, reason) ∈ r.closed := mem_closings.mp (hclosings ▸ List.mem_cons_self)
    rw [← hclosings, (h.closings_eq hmem).1, List.length_singleton]

theorem tallied_start {config : Config} {service : Http.Service} {credentials : Store.Credentials}
    {storage : Store.Storage} {handles : List Store.Backend}
    (hstart : start config service credentials storage handles = .ok r) : r.Tallied := by
  have hr := disciplined_start hstart
  obtain ⟨pool, -, rfl⟩ := start_cases hstart
  have hnothing : ∀ {key s}, ({} : KeyTable Slot).get? key ≠ some s := by
    intro key s hs
    cases hs
  exact ⟨hr.sound, hr.known, hr.distinct, fun hs => absurd hs hnothing,
    fun hid => absurd hid (Nat.not_lt_zero _), fun _ => rfl⟩

/-- The tally is right in every state that a server can come to. -/
theorem tallied_of_reachable {config : Config} {service : Http.Service}
    {credentials : Store.Credentials} {storage : Store.Storage} {handles : List Store.Backend}
    (hstart : start config service credentials storage handles = .ok r₀) (h : Reachable r₀ r) :
    r.Tallied :=
  h.induction (tallied_start hstart) fun _ _ _ hs hstep => hs.changes (changes_step hstep)

/-! ## Shutting down -/

/-- What is closed with the server is closed for that. -/
theorem closed_of_closeAll {keys : List Nat}
    (h : keys.foldlM (fun r key => r.close key reason) r = some r') :
    Changes r r' ∧ ∀ entry ∈ r'.closed, entry ∈ r.closed ∨ entry.2 = reason := by
  induction keys generalizing r with
  | nil =>
    obtain rfl := Option.some.inj h
    exact ⟨.refl, fun _ => Or.inl⟩
  | cons key keys ih =>
    obtain ⟨r₁, hclose, h⟩ := Option.bind_eq_some_iff.mp h
    obtain ⟨hchanges, hclosed⟩ := ih h
    refine ⟨.head (.closing hclose) hchanges, fun entry hentry => ?_⟩
    refine (hclosed entry hentry).elim (fun hentry => ?_) Or.inr
    rcases close_cases hclose with ⟨-, rfl⟩ | ⟨slot, deadlines, -, -, rfl⟩
    · exact Or.inl hentry
    · exact (List.mem_cons.mp hentry).elim (fun heq => Or.inr (congrArg Prod.snd heq)) Or.inl

/-- Workers that go on after a shutdown close nothing. -/
theorem closed_of_worker {events : List Event} (hevents : events.all Event.isOfWorker = true)
    (hrun : r.run events = some r') : r'.closed = r.closed := by
  induction events generalizing r with
  | nil =>
    obtain rfl := Option.some.inj hrun
    rfl
  | cons e events ih =>
    obtain ⟨he, hevents⟩ := Bool.and_eq_true_iff.mp hevents
    obtain ⟨r₁, hstep, hrun⟩ := Option.bind_eq_some_iff.mp hrun
    have hother : e.isOfSlots = false := by cases e <;> first | rfl | cases he
    exact (ih hevents hrun).trans (elsewhere_of_step hother hstep).2.1

/-- A shutdown closes each connection that is still open, and nothing that workers do after it
changes that. -/
theorem closings_shutdown (h : r.Tallied) (hshutdown : r.shutdown = some r') {s : Slot}
    (hs : r.slots.get? key = some s) {events : List Event}
    (hevents : events.all Event.isOfWorker = true) (hrun : r'.run events = some r'') :
    r''.closings s.id = [.shutdown] := by
  obtain ⟨r₁, hall, hend⟩ := Option.bind_eq_some_iff.mp hshutdown
  obtain rfl := Option.some.inj hend
  obtain ⟨hchanges, hreasons⟩ := closed_of_closeAll hall
  obtain ⟨hquiet, -, -, hleft⟩ := close_all hall
  have hgone : r₁.IsGone s.id := by
    intro k s' hs'
    obtain ⟨hnew, hs'⟩ := hleft k s' hs'
    exact absurd (KeyTable.mem_keys.mpr ⟨s', hs'⟩) hnew
  have hknown : s.id < r₁.connections.length := hquiet.connections_eq ▸ h.known hs
  obtain ⟨reason, hreason⟩ :=
    List.length_eq_one_iff.mp ((h.changes hchanges).gone hknown hgone)
  have hmem : (s.id, reason) ∈ r₁.closed := mem_closings.mp (hreason ▸ List.mem_singleton_self _)
  have hshut : reason = .shutdown := by
    refine (hreasons _ hmem).resolve_left fun hbefore => ?_
    rw [← mem_closings, h.held hs] at hbefore
    cases hbefore
  have hclosed : r''.closed = r₁.closed := (closed_of_worker hevents hrun).trans rfl
  rw [closings, hclosed, ← hshut]
  exact hreason

end EventLoop
end Server
end SiteServer
