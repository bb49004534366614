import SiteServer.Proofs.Http.Announcements
import SiteServer.Proofs.Server.Closings
import SiteServer.Proofs.Server.Idleness
import SiteServer.Proofs.Server.Notices

/-!
# Condemned connections

What should end a connection while it is away condemns its slot, and the connection is closed
when the loop gets it back: when its message is heard, or when it is looked at in the backlog
(`Retrieves`).

* `fate_of_step`: no other step does anything to a connection that is away but to condemn it, and
  the first reason stays.
* `silent_of_run`: nothing is read from a condemned connection or written to it, and its slot
  never waits for its socket again.
* `kept_or_retrieved_of_run`: along a run it keeps its slot until it is taken back, and then it is
  closed for that reason, once.
-/

namespace SiteServer

/-- What became of a stream that nobody has read from or written to: deliveries may have come,
and it may be known how further writes will go. -/
def Stream.Untouched (s s' : Stream) : Prop :=
  ∃ deliveries acceptances, s' = (s.deliver deliveries).expect acceptances

theorem Stream.Untouched.refl (s : Stream) : s.Untouched s :=
  ⟨[], [], by simp [deliver, expect]⟩

theorem Stream.Untouched.trans {s s' s'' : Stream} (h : s.Untouched s') (h' : s'.Untouched s'') :
    s.Untouched s'' := by
  obtain ⟨ds, as, rfl⟩ := h
  obtain ⟨ds', as', rfl⟩ := h'
  exact ⟨ds ++ ds', as ++ as', by simp [deliver, expect]⟩

namespace Server

/-- The reason for which the loop condemns connections in an event. -/
def Event.sentence? : Event → Option ClosingReason
  | .heed _ => some .hangUp
  | .tick _ => some .idleTimeout
  | _ => none

namespace EventLoop

variable {r r' r₀ : EventLoop} {id : Nat} {t : Ticket} {s : Slot} {reason : ClosingReason}
  {e : Event} {config : Config} {g : Agenda DeadlineId Ticket}

/-! ## What a step makes of a connection that is away -/

/-- The loop takes a connection back in an event: it looks at it in the backlog, or hears what a
worker has to say about it. -/
def Retrieves (r : EventLoop) (e : Event) (t : Ticket) : Prop :=
  e = .offer ∧ r.backlog.head? = some t ∨ e = .hear ∧ (r.messages.map (·.1)).head? = some t

/-- What a step makes of a connection that is away. -/
inductive Fate (r : EventLoop) (e : Event) (t : Ticket) (s : Slot) (r' : EventLoop) : Prop
  /-- It stays away, and may be condemned if it is not. -/
  | stays (s' : Slot) (hslot : r'.slot? t = some s') (haway : s'.isAway = true)
    (hcondemned : s'.condemned = s.condemned ∨ s'.condemned = s.condemned.or e.sentence?)
  /-- It is taken back, and closed if there was a reason. -/
  | retrieved (hretrieved : r.Retrieves e t)
    (hclosed : ∀ reason, s.condemned = some reason → (t.id, reason) ∈ r'.closed)

theorem Disciplined.foreign (h : r.Disciplined none) (hs : r.slot? t = some s) {key : Nat}
    (hkey : key ≠ t.key) : r.Foreign key t.id := by
  obtain ⟨hget, hid⟩ := slot?_eq_some.mp hs
  exact fun s' hs' hid' => hkey (h.distinct hs' hget (hid'.trans hid.symm))

/-- Two tickets of one slot are the same. -/
theorem eq_of_slot?_of_key_eq {u : Ticket} {s' : Slot} (hs : r.slot? t = some s)
    (hs' : r.slot? u = some s') (hkey : u.key = t.key) : u = t ∧ s' = s := by
  obtain ⟨hget, hid⟩ := slot?_eq_some.mp hs
  obtain ⟨hget', hid'⟩ := slot?_eq_some.mp hs'
  rw [hkey, hget] at hget'
  obtain rfl := Option.some.inj hget'
  exact ⟨by rw [← ticket_eq hid, ← ticket_eq hid', hkey], rfl⟩

theorem Spares.slot?_eq (h : Spares t.id r r') (hs : r.slot? t = some s) : r'.slot? t = some s := by
  obtain ⟨hget, hid⟩ := slot?_eq_some.mp hs
  exact slot?_eq_some.mpr ⟨(h.slot hid).mpr hget, hid⟩

theorem Fate.of_slot (haway : s.isAway = true) (hslot : r'.slot? t = some s) : Fate r e t s r' :=
  .stays s hslot haway (Or.inl rfl)

theorem Fate.of_slots (haway : s.isAway = true) (hs : r.slot? t = some s)
    (hslots : r'.slots = r.slots) : Fate r e t s r' := by
  refine .of_slot haway ?_
  rw [slot?_eq_some] at hs ⊢
  rwa [hslots]

/-- A connection that is closed is told of. -/
theorem mem_closed_of_close {key : Nat} (hs : r.slots.get? key = some s) (hid : s.id = id)
    (hclose : r.close key reason = some r') : (id, reason) ∈ r'.closed := by
  rcases close_cases hclose with ⟨hnone, -⟩ | ⟨s', deadlines, hs', -, rfl⟩
  · rw [hs] at hnone
    cases hnone
  · obtain rfl := Option.some.inj (hs.symm.trans hs')
    rw [hid]
    exact List.mem_cons_self

theorem Disciplined.travelling_of_isAway (h : r.Disciplined none) {key : Nat}
    (hs : r.slots.get? key = some s) (haway : s.isAway = true) : r.Travelling key s := by
  rcases h.placed hs (Option.some_ne_none key).symm with ⟨hhome, -, -⟩ | htravel
  · rw [haway] at hhome
    cases hhome
  · exact htravel

theorem Disciplined.isAway_of_transit (h : r.Disciplined none) (ht : t ∈ r.transit)
    (hs : r.slot? t = some s) : s.isAway = true := by
  by_contra hhome
  have hnone := h.load_of_resting (slot?_eq_some.mp hs).1 (Bool.eq_false_iff.mpr hhome) rfl
  exact absurd (mem_transit_iff.mp ht) (by omega)

/-- Heeding a notice for the slot of a connection that is away condemns it at most. -/
theorem Fate.of_heed (hr : r.Disciplined none) (hs : r.slot? t = some s)
    (haway : s.isAway = true) {now : Nat} (hstep : r.step (.heed now) = some r') :
    Fate r (.heed now) t s r' := by
  simp only [step] at hstep
  split at hstep
  case h_1 => cases hstep
  case h_2 n batch _ =>
    obtain ⟨hget, hid⟩ := slot?_eq_some.mp hs
    by_cases hkey : n.key = t.key
    -- the slot waits for nothing, so nothing but a hang-up counts
    · have hawaits : s.awaits = none := (hr.travelling_of_isAway hget haway).2.1
      rcases heed_cases hstep with ⟨-, rfl⟩ | ⟨s', hs', hcases⟩
      · exact .of_slots haway hs rfl
      obtain rfl : s' = s := Option.some.inj (hs'.symm.trans (hkey ▸ hget))
      rcases hcases with ⟨-, -, rfl⟩ | ⟨-, hhome, -⟩ | ⟨-, hread, -, -⟩ | ⟨-, hwrite, -, -⟩ |
        ⟨-, -, -, rfl⟩
      · refine .stays (s'.condemn .hangUp) (slot?_eq_some.mpr ⟨?_, hid⟩) haway (Or.inr rfl)
        rw [get?_updateSlot, if_pos hkey.symm, hs', Option.map_some]
      · rw [haway] at hhome
        cases hhome
      · rw [hawaits] at hread
        cases hread
      · rw [hawaits] at hwrite
        cases hwrite
      · exact .of_slots haway hs rfl
    · have hforeign := hr.foreign hs hkey
      exact .of_slot haway ((heed_spares hstep hforeign).slot?_eq hs)

/-- Looking at the backlog closes a connection if it is the first there, and condemned. -/
theorem Fate.of_offer (hr : r.Disciplined none) (hs : r.slot? t = some s)
    (haway : s.isAway = true) (hstep : r.step .offer = some r') : Fate r .offer t s r' := by
  obtain ⟨⟨r₁, more⟩, hoffer, rfl⟩ := Option.map_eq_some_iff.mp hstep
  rcases offerFirst_cases hoffer with ⟨-, rfl, -⟩ | ⟨u, backlog, hbacklog, hcases⟩
  · exact .of_slots haway hs rfl
  rcases hcases with ⟨-, rfl, -⟩ | ⟨s', reason, hs', hreason, hclose, -⟩ |
    ⟨_, _, -, -, -, rfl, -⟩ | ⟨_, -, -, -, rfl, -⟩
  · exact .of_slots haway hs rfl
  · by_cases hkey : u.key = t.key
    · obtain ⟨rfl, rfl⟩ := eq_of_slot?_of_key_eq hs hs' hkey
      obtain ⟨hget, hid⟩ := slot?_eq_some.mp hs
      refine .retrieved (Or.inl ⟨rfl, by rw [hbacklog]; rfl⟩) fun reason' hreason' => ?_
      obtain rfl := Option.some.inj (hreason.symm.trans hreason')
      exact mem_closed_of_close (r := { r with backlog }) hget hid hclose
    · have hforeign : ({ r with backlog } : EventLoop).Foreign u.key t.id := hr.foreign hs hkey
      exact .of_slot haway ((spares_close hforeign hclose).slot?_eq hs)
  · exact .of_slots haway hs rfl
  · exact .of_slots haway hs rfl

/-- Taking a message about a connection brings it back, and closes it if it is condemned. -/
theorem Fate.of_hear (hr : r.Disciplined none) (hs : r.slot? t = some s)
    (haway : s.isAway = true) (hstep : r.step .hear = some r') : Fate r .hear t s r' := by
  rcases hearFirst_cases hstep with ⟨-, rfl⟩ | ⟨u, next, messages, hmessages, hcases⟩
  · exact .of_slots haway hs rfl
  rcases hcases with ⟨-, rfl⟩ | ⟨s', hs', hcases⟩
  · exact .of_slots haway hs rfl
  by_cases hkey : u.key = t.key
  · obtain ⟨rfl, rfl⟩ := eq_of_slot?_of_key_eq hs hs' hkey
    obtain ⟨hget, hid⟩ := slot?_eq_some.mp hs
    refine .retrieved (Or.inr ⟨rfl, by rw [hmessages]; rfl⟩) fun reason hreason => ?_
    -- what the worker says the connection needs makes no difference if it is condemned
    rcases hcases with ⟨reason', hwhy, hclose⟩ | ⟨_, hnone, -, -⟩
    · have hback : (({ r with messages } : EventLoop).updateSlot u.key Slot.comeBack).slots.get?
          u.key = some s'.comeBack := by
        rw [get?_updateSlot, if_pos rfl, hget, Option.map_some]
      rcases hwhy with hcondemned | ⟨hnone, -, -⟩
      · obtain rfl := Option.some.inj (hreason.symm.trans hcondemned)
        exact mem_closed_of_close hback hid hclose
      · rw [hreason] at hnone
        cases hnone
    · rw [hreason] at hnone
      cases hnone
  · have hforeign : ({ r with messages } : EventLoop).Foreign u.key t.id := hr.foreign hs hkey
    have hback : Spares t.id ({ r with messages } : EventLoop)
        (({ r with messages } : EventLoop).updateSlot u.key Slot.comeBack) :=
      spares_updateSlot hforeign fun _ => rfl
    have hforeign' := (retains_updateSlot ({ r with messages } : EventLoop) u.key
      (f := Slot.comeBack) fun _ => rfl).foreign hforeign
    rcases hcases with ⟨reason, -, hclose⟩ | ⟨readiness, -, -, hawait⟩
    · exact .of_slot haway ((hback.trans (spares_close hforeign' hclose)).slot?_eq hs)
    · exact .of_slot haway ((hback.trans (spares_await hforeign' hawait)).slot?_eq hs)

/-- A tick condemns a connection that is away at most. -/
theorem Fate.of_tick (hbalanced : r.Balanced config [] g) (hs : r.slot? t = some s)
    (haway : s.isAway = true) {now : Nat} (hstep : r.step (.tick now) = some r') :
    Fate r (.tick now) t s r' := by
  obtain ⟨hget, hid⟩ := slot?_eq_some.mp hs
  obtain ⟨r₁, htick, -, hended⟩ := hbalanced.tick now
  obtain rfl := Option.some.inj (htick.symm.trans hstep)
  have hleft := hended.slot t.key
  rw [hget, Option.bind_some] at hleft
  split at hleft
  case isTrue =>
    rw [Slot.expire, haway, if_pos rfl] at hleft
    exact .stays _ (slot?_eq_some.mpr ⟨hleft, hid⟩) rfl (Or.inr rfl)
  case isFalse => exact .of_slot haway (slot?_eq_some.mpr ⟨hleft, hid⟩)

/-- **A connection that is away stays away until the loop takes it back.** -/
theorem fate_of_step (hr : r.Disciplined none) (hbalanced : r.Balanced config [] g)
    (hs : r.slot? t = some s) (haway : s.isAway = true) (hstep : r.step e = some r') :
    Fate r e t s r' := by
  cases he : e.isOfSlots with
  | false => exact .of_slots haway hs (elsewhere_of_step he hstep).1
  | true =>
    cases e with
    | heed now => exact .of_heed hr hs haway hstep
    | accept now peer stream =>
      rcases accept_cases hstep with ⟨-, rfl⟩ | ⟨deadline, deadlines, -, -, rfl⟩
      · exact .of_slots haway hs rfl
      · obtain ⟨hget, hid⟩ := slot?_eq_some.mp hs
        refine .of_slot haway (slot?_eq_some.mpr ⟨?_, hid⟩)
        refine (KeyTable.get?_insert_eq_some hr.sound).mpr (Or.inr ⟨fun hkey => ?_, hget⟩)
        rw [hkey, KeyTable.get?_nextKey hr.sound] at hget
        cases hget
    | offer => exact .of_offer hr hs haway hstep
    | hear => exact .of_hear hr hs haway hstep
    | tick now => exact .of_tick hbalanced hs haway hstep
    | arrive | expect | refuse | poll | post | take | test | pop | process | send => cases he

/-- A reason to close a connection that stays away stays that. -/
theorem Fate.kept_or_retrieved (h : Fate r e t s r') (hreason : s.condemned = some reason) :
    (∃ s', r'.slot? t = some s' ∧ s'.condemned = some reason) ∨
      r.Retrieves e t ∧ (t.id, reason) ∈ r'.closed := by
  cases h with
  | stays s' hslot _ hcondemned =>
    refine Or.inl ⟨s', hslot, ?_⟩
    rcases hcondemned with hsame | hor
    · rw [hsame, hreason]
    · rw [hor, hreason, Option.some_or]
  | retrieved hretrieved hclosed => exact Or.inr ⟨hretrieved, hclosed reason hreason⟩

/-- What is condemned is away, waits for nothing and is in one place. -/
theorem Balanced.travelling_of_condemned (h : r.Balanced config [] g) (hr : r.Disciplined none)
    {key : Nat} (hs : r.slots.get? key = some s) (hcondemned : s.condemned.isSome = true) :
    r.Travelling key s := by
  refine hr.travelling_of_isAway hs ?_
  by_contra hhome
  rw [h.spared hs (Bool.eq_false_iff.mpr hhome)] at hcondemned
  cases hcondemned

/-! ## Silence -/

/-- No slot of a connection waits for its socket. -/
def IsMute (r : EventLoop) (id : Nat) : Prop :=
  ∀ key s, r.slots.get? key = some s → s.id = id → s.awaits = none

/-- What heeding a notice calls is the connection in the slot, and that waits. -/
theorem exists_slot_of_mem_noticeCalls {n : Notice} {call : Http.Call}
    (hcall : call ∈ r.noticeCalls n) :
    ∃ s, r.slots.get? n.key = some s ∧ s.id = call.number ∧ s.awaits ≠ none := by
  unfold noticeCalls at hcall
  split at hcall
  case h_1 => cases hcall
  case h_2 slot hslot =>
    refine ⟨slot, hslot, ?_⟩
    split at hcall
    case h_1 c _ hawaits _ =>
      rw [hawaits]
      split at hcall
      · exact ⟨by rw [List.mem_singleton.mp hcall], Option.some_ne_none _⟩
      · cases hcall
    case h_2 c _ hawaits _ =>
      rw [hawaits]
      refine ⟨?_, Option.some_ne_none _⟩
      repeat' split at hcall
      all_goals simp only [List.mem_cons, List.not_mem_nil, or_false] at hcall
      · rcases hcall with rfl | rfl <;> rfl
      · rw [hcall]
      · rw [hcall]
    case h_3 => cases hcall

/-- A worker may process a connection that is mute, and nobody does anything else to it. -/
theorem IsMute.calls (h : r.IsMute id) (hid : id < r.connections.length) {call : Http.Call}
    (hcall : call ∈ callsOn id (r.calls e)) : ∃ session, call.kind = .process session := by
  obtain ⟨hcall, hnumber⟩ := List.mem_filter.mp hcall
  rw [decide_eq_true_eq] at hnumber
  cases e with
  | heed now =>
    obtain ⟨n, -, hcall⟩ := exists_notice_of_mem_calls hcall
    obtain ⟨s, hs, hsid, hawaits⟩ := exists_slot_of_mem_noticeCalls hcall
    exact absurd (h n.key s hs (hsid.trans hnumber)) hawaits
  | accept now peer stream =>
    simp only [EventLoop.calls] at hcall
    split at hcall
    · cases hcall
    · rw [List.mem_singleton.mp hcall] at hnumber
      exact absurd hnumber.symm (Nat.ne_of_lt hid)
  | process worker handle => exact exists_session_of_mem_calls hcall
  | arrive | expect | refuse | poll | offer | hear | tick | post | take | test | pop | send =>
    cases hcall

/-- Nothing is read from a connection that is mute, or written to it. -/
theorem IsMute.untouched (h : r.IsMute id) (hid : id < r.connections.length)
    {c : Http.Connection} (hc : r.connections[id]? = some c) (hstep : r.step e = some r') :
    ∃ c', r'.connections[id]? = some c' ∧ c.stream.Untouched c'.stream := by
  have hsame : r'.connections[id]? = r.connections[id]? →
      ∃ c', r'.connections[id]? = some c' ∧ c.stream.Untouched c'.stream :=
    fun heq => ⟨c, heq.trans hc, .refl _⟩
  have hset : ∀ other c', (c'.stream = c.stream ∨ other ≠ id) →
      ∃ c'', (r.setConnection other c').connections[id]? = some c'' ∧
        c.stream.Untouched c''.stream := by
    intro other c' hstream
    by_cases hother : other = id
    · subst hother
      refine ⟨c', List.getElem?_set_self hid, ?_⟩
      rw [hstream.resolve_right fun hne => hne rfl]
      exact .refl _
    · exact ⟨c, (List.getElem?_set_ne hother).trans hc, .refl _⟩
  have hstream : ∀ other f, c.stream.Untouched (f c.stream) → r' = r.updateStream other f →
      ∃ c', r'.connections[id]? = some c' ∧ c.stream.Untouched c'.stream := by
    rintro other f hf rfl
    unfold updateStream
    split
    case h_2 => exact ⟨c, hc, .refl _⟩
    case h_1 c' hc' =>
      by_cases hother : other = id
      · subst hother
        obtain rfl := Option.some.inj (hc.symm.trans hc')
        exact ⟨_, List.getElem?_set_self hid, hf⟩
      · exact ⟨c, (List.getElem?_set_ne hother).trans hc, .refl _⟩
  cases e with
  | arrive other deliveries =>
    refine hstream other _ ⟨deliveries, [], ?_⟩ (Option.some.inj hstep).symm
    simp [Stream.expect]
  | expect other acceptances =>
    refine hstream other _ ⟨[], acceptances, ?_⟩ (Option.some.inj hstep).symm
    simp [Stream.deliver]
  | refuse ids =>
    obtain rfl := Option.some.inj hstep
    exact hsame rfl
  | post | take | test | pop =>
    obtain ⟨pool, -, rfl⟩ := Option.map_eq_some_iff.mp hstep
    exact hsame rfl
  | process worker handle =>
    -- to process a connection is to read its buffer and to compose, not to touch its stream
    obtain ⟨backend, t, c₁, -, -, hc₁, rfl⟩ := process_cases hstep
    refine hset t.id _ ?_
    by_cases hother : t.id = id
    · rw [hother] at hc₁
      obtain rfl := Option.some.inj (hc.symm.trans hc₁)
      obtain ⟨_, _, _, -, ⟨-, heq⟩ | ⟨_, _, _, _, -, heq, -, -⟩⟩ :=
        c.process_cases r.service ⟨r.credentials, backend, r.storage⟩ <;>
      · rw [heq]
        exact Or.inl rfl
    · exact Or.inr hother
  | send worker =>
    obtain ⟨t, next, -, rfl⟩ := send_cases hstep
    exact hsame rfl
  | poll | heed | accept | offer | hear | tick => exact hsame (connection_of_step rfl hid h hstep)

/-! ## Runs -/

/-- A connection is condemned, or was closed, for a reason. -/
def Sentenced (r : EventLoop) (t : Ticket) (reason : ClosingReason) : Prop :=
  (∃ s, r.slot? t = some s ∧ s.condemned = some reason) ∨ (t.id, reason) ∈ r.closed

section Runs

variable {service : Http.Service} {credentials : Store.Credentials} {storage : Store.Storage}
  {handles : List Store.Backend} {events : List Event}

/-- A condemned connection keeps its slot and its reason in a step, or is taken back and closed. -/
theorem kept_or_retrieved_of_step
    (hstart : start config service credentials storage handles = .ok r₀) (h : Reachable r₀ r)
    (hs : r.slot? t = some s) (hreason : s.condemned = some reason) (hstep : r.step e = some r') :
    (∃ s', r'.slot? t = some s' ∧ s'.condemned = some reason) ∨
      r.Retrieves e t ∧ (t.id, reason) ∈ r'.closed := by
  obtain ⟨hr, g, hbalanced⟩ := balanced_of_reachable hstart h
  obtain ⟨haway, -, -⟩ := hbalanced.travelling_of_condemned hr (slot?_eq_some.mp hs).1
    (Option.isSome_iff_exists.mpr ⟨reason, hreason⟩)
  exact (fate_of_step hr hbalanced hs haway hstep).kept_or_retrieved hreason

theorem Sentenced.step (hstart : start config service credentials storage handles = .ok r₀)
    (h : Reachable r₀ r) (hsentenced : r.Sentenced t reason) (hstep : r.step e = some r') :
    r'.Sentenced t reason := by
  rcases hsentenced with ⟨s, hs, hreason⟩ | hclosed
  · exact (kept_or_retrieved_of_step hstart h hs hreason hstep).imp_right And.right
  · exact Or.inr ((closed_suffix (changes_step hstep)).subset hclosed)

theorem Sentenced.run (hstart : start config service credentials storage handles = .ok r₀)
    (h : Reachable r₀ r) (hsentenced : r.Sentenced t reason) (hrun : r.run events = some r') :
    r'.Sentenced t reason := by
  induction events generalizing r with
  | nil =>
    obtain rfl := Option.some.inj hrun
    exact hsentenced
  | cons e events ih =>
    obtain ⟨r₁, hstep, hrun⟩ := Option.bind_eq_some_iff.mp hrun
    exact ih (h.step hstep) (hsentenced.step hstart h hstep) hrun

/-- The number of the connection is one that was given, and its slot, if it still has one, waits
for nothing. -/
theorem Sentenced.mute (hstart : start config service credentials storage handles = .ok r₀)
    (h : Reachable r₀ r) (hsentenced : r.Sentenced t reason) :
    t.id < r.connections.length ∧ r.IsMute t.id := by
  rcases hsentenced with ⟨s, hs, hreason⟩ | hclosed
  · obtain ⟨hr, g, hbalanced⟩ := balanced_of_reachable hstart h
    obtain ⟨hget, hid⟩ := slot?_eq_some.mp hs
    refine ⟨hid ▸ hr.known hget, fun key s' hs' hid' => ?_⟩
    obtain rfl := hr.distinct hs' hget (hid'.trans hid.symm)
    obtain rfl := Option.some.inj (hget.symm.trans hs')
    exact (hbalanced.travelling_of_condemned hr hget
      (Option.isSome_iff_exists.mpr ⟨reason, hreason⟩)).2.1
  · have htallied := tallied_of_reachable hstart h
    exact ⟨htallied.lt_of_closed hclosed,
      fun key s hs hid => absurd hid ((htallied.closings_eq hclosed).2 key s hs)⟩

/-- **Nothing is read from a condemned connection or written to it**, whatever happens, until it
is closed and after that; its slot never waits for its socket again. -/
theorem silent_of_run (hstart : start config service credentials storage handles = .ok r₀)
    (h : Reachable r₀ r) (hsentenced : r.Sentenced t reason) (hrun : r.run events = some r') :
    r'.IsMute t.id ∧
    (∀ call ∈ callsOn t.id (r.history events), ∃ session, call.kind = .process session) ∧
    ∀ c, r.connections[t.id]? = some c →
      ∃ c', r'.connections[t.id]? = some c' ∧ c.stream.Untouched c'.stream := by
  induction events generalizing r with
  | nil =>
    obtain rfl := Option.some.inj hrun
    exact ⟨(hsentenced.mute hstart h).2, List.forall_mem_nil _, fun c hc => ⟨c, hc, .refl _⟩⟩
  | cons e events ih =>
    obtain ⟨r₁, hstep, hrun⟩ := Option.bind_eq_some_iff.mp hrun
    obtain ⟨hknown, hmute⟩ := hsentenced.mute hstart h
    obtain ⟨hmute', hcalls, hstream⟩ := ih (h.step hstep) (hsentenced.step hstart h hstep) hrun
    refine ⟨hmute', fun call hcall => ?_, fun c hc => ?_⟩
    · rw [history, hstep, callsOn, List.filter_append, List.mem_append] at hcall
      exact hcall.elim (hmute.calls hknown) (hcalls call)
    · obtain ⟨c₁, hc₁, huntouched⟩ := hmute.untouched hknown hc hstep
      obtain ⟨c', hc', huntouched'⟩ := hstream c₁ hc₁
      exact ⟨c', hc', huntouched.trans huntouched'⟩

/-- Somewhere in a run a condemned connection was taken back, and closed in that step. -/
def RetrievedIn (r : EventLoop) (t : Ticket) (reason : ClosingReason) (events : List Event) :
    Prop :=
  ∃ before e after r₁ r₂, events = before ++ e :: after ∧ r.run before = some r₁ ∧
    r₁.step e = some r₂ ∧ r₁.Retrieves e t ∧ r₁.closings t.id = [] ∧ r₂.closings t.id = [reason]

theorem RetrievedIn.cons {r₁ : EventLoop} (h : r₁.RetrievedIn t reason events)
    (hstep : r.step e = some r₁) : r.RetrievedIn t reason (e :: events) := by
  obtain ⟨before, e', after, r₂, r₃, heq, hrun, hrest⟩ := h
  refine ⟨e :: before, e', after, r₂, r₃, by rw [heq, List.cons_append], ?_, hrest⟩
  rw [run, hstep]
  exact hrun

/-- **A condemned connection keeps its slot until it is taken back**, and then it is closed for
that reason. -/
theorem kept_or_retrieved_of_run
    (hstart : start config service credentials storage handles = .ok r₀) (h : Reachable r₀ r)
    (hs : r.slot? t = some s) (hreason : s.condemned = some reason)
    (hrun : r.run events = some r') :
    (∃ s', r'.slot? t = some s' ∧ s'.condemned = some reason) ∨
      r.RetrievedIn t reason events ∧ (t.id, reason) ∈ r'.closed := by
  induction events generalizing r s with
  | nil =>
    obtain rfl := Option.some.inj hrun
    exact Or.inl ⟨s, hs, hreason⟩
  | cons e events ih =>
    obtain ⟨r₁, hstep, hrun⟩ := Option.bind_eq_some_iff.mp hrun
    rcases kept_or_retrieved_of_step hstart h hs hreason hstep with
      ⟨s₁, hs₁, hreason₁⟩ | ⟨hretrieves, hclosed⟩
    · have hlater := ih (h.step hstep) hs₁ hreason₁ hrun
      exact hlater.imp_right fun hend => ⟨hend.1.cons hstep, hend.2⟩
    · obtain ⟨hget, hid⟩ := slot?_eq_some.mp hs
      have hopen := (tallied_of_reachable hstart h).held hget
      rw [hid] at hopen
      have hone := ((tallied_of_reachable hstart (h.step hstep)).closings_eq hclosed).1
      exact Or.inr ⟨⟨[], e, events, r, r₁, rfl, rfl, hstep, hretrieves, hopen, hone⟩,
        (closed_suffix (changes_run hrun)).subset hclosed⟩

/-- Taking a condemned connection back succeeds, and closes it. -/
theorem Balanced.exists_closed (h : r.Balanced config [] g) (hs : r.slot? t = some s)
    (hreason : s.condemned = some reason) (hretrieves : r.Retrieves e t) :
    ∃ r', r.step e = some r' ∧ (t.id, reason) ∈ r'.closed := by
  obtain ⟨hget, hid⟩ := slot?_eq_some.mp hs
  rcases hretrieves with ⟨rfl, hfirst⟩ | ⟨rfl, hfirst⟩
  · obtain ⟨backlog, hbacklog⟩ := List.head?_eq_some_iff.mp hfirst
    have hrest : Balanced config [] g { r with backlog } := h.congr rfl rfl rfl rfl
    obtain ⟨r', -, hclose, -, -⟩ := hrest.close t.key reason
    refine ⟨r', ?_, mem_closed_of_close (r := { r with backlog }) hget hid hclose⟩
    simp only [step, EventLoop.offerFirst, hbacklog, hs, hreason, hclose, Option.map_some]
  · obtain ⟨⟨u, next⟩, hmessage, rfl⟩ := Option.map_eq_some_iff.mp (List.head?_map ▸ hfirst)
    obtain ⟨messages, hmessages⟩ := List.head?_eq_some_iff.mp hmessage
    have hrest : Balanced config [] g { r with messages } := h.congr rfl rfl rfl rfl
    obtain ⟨r', -, hclose, -, -⟩ := hrest.close u.key reason
    refine ⟨r', ?_, mem_closed_of_close (r := { r with messages }) hget hid hclose⟩
    have hfound : ({ r with messages } : EventLoop).slot? u = some s := hs
    have hback : (({ r with messages } : EventLoop).updateSlot u.key Slot.comeBack).close u.key
        reason = some r' :=
      (close_updateSlot (f := Slot.comeBack) (fun _ => ⟨rfl, rfl⟩) reason).trans hclose
    simp only [step, EventLoop.hearFirst, hmessages, hfound, hreason, hback]

/-- **Condemned connections are silent, and closed once.**  In every state that a server can come
to what is condemned is away, waits for nothing and is in one place.  No step does anything to a
connection that is away but to condemn it, until the loop takes it back (`Fate`).

Once a connection is condemned, whatever happens, it is processed at most; its stream is neither
read nor written, and no slot of it ever waits for its socket.  It keeps its slot and its first
reason until it is taken back, and taking it back succeeds and closes it for that reason, which
is the only time it is closed.

So what is on its way has its slot and was not closed, and nothing is closed twice.  A shutdown
closes each connection that is open then for that, with no call on any connection. -/
theorem condemned_closed_once
    (hstart : start config service credentials storage handles = .ok r₀) (h : Reachable r₀ r) :
    (∀ key s, r.slots.get? key = some s → s.condemned.isSome = true → r.Travelling key s) ∧
    (∀ t s e r', r.slot? t = some s → s.isAway = true → r.step e = some r' → Fate r e t s r') ∧
    (∀ t s reason, r.slot? t = some s → s.condemned = some reason →
      (∀ events r', r.run events = some r' →
        r'.IsMute t.id ∧
        (∀ call ∈ callsOn t.id (r.history events), ∃ session, call.kind = .process session) ∧
        (∃ c c', r.connections[t.id]? = some c ∧ r'.connections[t.id]? = some c' ∧
          c.stream.Untouched c'.stream) ∧
        ((∃ s', r'.slot? t = some s' ∧ s'.condemned = some reason ∧ r'.closings t.id = []) ∨
          r.RetrievedIn t reason events ∧ r'.closings t.id = [reason] ∧ r'.IsGone t.id)) ∧
      ∀ e, r.Retrieves e t →
        ∃ r', r.step e = some r' ∧ r'.closings t.id = [reason] ∧ r'.IsGone t.id) ∧
    (∀ t ∈ r.transit, (∃ s, r.slot? t = some s ∧ s.isAway = true) ∧ r.closings t.id = []) ∧
    (∀ id, (r.closings id).length ≤ 1) ∧
    ∃ r', r.shutdown = some r' ∧ r'.connections = r.connections ∧
      ∀ key s events r'', r.slots.get? key = some s → events.all Event.isOfWorker = true →
        r'.run events = some r'' → r''.closings s.id = [.shutdown] := by
  obtain ⟨hr, g, hbalanced⟩ := balanced_of_reachable hstart h
  have htallied := tallied_of_reachable hstart h
  refine ⟨fun key s hs => hbalanced.travelling_of_condemned hr hs,
    fun t s e r' hs haway hstep => fate_of_step hr hbalanced hs haway hstep,
    fun t s reason hs hreason => ⟨fun events r' hrun => ?_, fun e hretrieves => ?_⟩,
    fun t ht => ?_, htallied.length_closings_le, ?_⟩
  · obtain ⟨hmute, hcalls, hstream⟩ := silent_of_run hstart h (Or.inl ⟨s, hs, hreason⟩) hrun
    obtain ⟨hget, hid⟩ := slot?_eq_some.mp hs
    have hknown : t.id < r.connections.length := hid ▸ hr.known hget
    obtain ⟨c', hc', huntouched⟩ := hstream _ (List.getElem?_eq_getElem hknown)
    refine ⟨hmute, hcalls, ⟨_, c', List.getElem?_eq_getElem hknown, hc', huntouched⟩, ?_⟩
    have htallied' := htallied.changes (changes_run hrun)
    rcases kept_or_retrieved_of_run hstart h hs hreason hrun with
      ⟨s', hs', hreason'⟩ | ⟨hretrieved, hclosed⟩
    · obtain ⟨hget', hid'⟩ := slot?_eq_some.mp hs'
      exact Or.inl ⟨s', hs', hreason', hid' ▸ htallied'.held hget'⟩
    · exact Or.inr ⟨hretrieved, htallied'.closings_eq hclosed⟩
  · obtain ⟨r', hstep, hclosed⟩ := hbalanced.exists_closed hs hreason hretrieves
    exact ⟨r', hstep, (htallied.changes (changes_step hstep)).closings_eq hclosed⟩
  · obtain ⟨-, s, hs⟩ := hr.owned (mem_transit_iff.mp ht)
    obtain ⟨hget, hid⟩ := slot?_eq_some.mp hs
    exact ⟨⟨s, hs, hr.isAway_of_transit ht hs⟩, hid ▸ htallied.held hget⟩
  · obtain ⟨r', hshutdown, -⟩ := hbalanced.shutdown
    exact ⟨r', hshutdown, (stopped_of_shutdown hr hshutdown).1.connections_eq,
      fun key s events r'' hs hevents hrun =>
        closings_shutdown htallied hshutdown hs hevents hrun⟩

/-- The first client of `staleNotice` is condemned while it is away, as its time has passed.  That
its socket fails after that makes no difference: it is closed for its first reason when the loop
hears from the worker. -/
theorem condemned_closed_once_of_idle_client :
    ∃ r r', narrow.run (staleNotice.take 10) = some r ∧
      r.run [.poll [{ key := 0, source := 0, hangUp := true }], .heed 100, .hear] = some r' ∧
      r'.closings 0 = [.idleTimeout] ∧ r'.IsGone 0 := by
  have hstart : start narrow.config narrow.service {} {} [.memory] = .ok narrow := rfl
  have hcondemned : (narrow.run (staleNotice.take 10)).map
      (fun r => (r.slot? ⟨0, 0⟩).bind (·.condemned)) = some (some .idleTimeout) := by decide +kernel
  have hlast : ((narrow.run (staleNotice.take 10)).bind fun r =>
      r.run [.poll [{ key := 0, source := 0, hangUp := true }], .heed 100, .hear]).map
        (fun r => r.slot? ⟨0, 0⟩) = some none := by decide +kernel
  obtain ⟨r, hrun, hslot⟩ := Option.map_eq_some_iff.mp hcondemned
  obtain ⟨s, hs, hreason⟩ := Option.bind_eq_some_iff.mp hslot
  rw [hrun, Option.bind_some] at hlast
  obtain ⟨r', hrun', hnone⟩ := Option.map_eq_some_iff.mp hlast
  obtain ⟨-, -, hall, -⟩ := condemned_closed_once hstart ⟨_, hrun⟩
  obtain ⟨-, -, -, hend⟩ := (hall _ s _ hs hreason).1 _ r' hrun'
  refine ⟨r, r', hrun, hrun', ?_⟩
  rcases hend with ⟨s', hs', -⟩ | ⟨-, hclosed⟩
  · rw [hnone] at hs'
    cases hs'
  · exact hclosed

end Runs

end EventLoop
end Server
end SiteServer
