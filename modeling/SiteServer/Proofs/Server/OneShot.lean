import SiteServer.Proofs.Server.Discipline
import SiteServer.Proofs.Server.Separation

/-!
# One hand on each connection

After any run of a server every connection that is open either rests, its slot waiting for
its socket, or is on its way in exactly one place.  None is in two places, and none is lost,
not even when the queue is full or a connection is condemned while it is away.

A notice names a slot and not a connection.  For what is shown here that makes no
difference, since only slots that rest are read from and written to.

Each operation keeps `Disciplined`, hence each step does (`disciplined_step`), and hence does
a run (`disciplined_of_reachable`).  What follows for workers and for the loop's own reading
and writing is in `rests_or_travels`.
-/

namespace SiteServer
namespace Server
namespace EventLoop

variable {r r' : EventLoop} {key now : Nat}

/-! ## Accepting -/

/-- A new connection rests. -/
theorem Disciplined.accept (h : r.Disciplined none) {peer : Net.SocketAddress}
    {stream : Stream} (hstep : r.accept now peer stream = some r') : r'.Disciplined none := by
  rcases accept_cases hstep with ⟨-, rfl⟩ | ⟨deadline, deadlines, -, -, rfl⟩
  · exact h
  · -- what is found in a slot is the new one, or was there before
    have hfound : ∀ {k s},
        (r.slots.insert (.opened r.connections.length deadline)).get? k = some s →
        (k = r.slots.nextKey ∧ s = .opened r.connections.length deadline) ∨
          (k ≠ r.slots.nextKey ∧ r.slots.get? k = some s) :=
      fun hs => (KeyTable.get?_insert_eq_some h.sound).mp hs
    have hfree : r.slots.get? r.slots.nextKey = none := KeyTable.get?_nextKey h.sound
    refine ⟨KeyTable.sound_insert h.sound _, ?_, ?_, ?_, ?_⟩
    · intro k s hs
      simp only [List.length_append, List.length_singleton]
      rcases hfound hs with ⟨-, rfl⟩ | ⟨-, hs⟩
      · exact Nat.lt_succ_self _
      · exact Nat.lt_succ_of_lt (h.known hs)
    · intro k k' s s' hs hs' heq
      rcases hfound hs with ⟨hk, rfl⟩ | ⟨-, hs⟩ <;>
      rcases hfound hs' with ⟨hk', rfl⟩ | ⟨-, hs'⟩
      · rw [hk, hk']
      · exact absurd heq (Nat.ne_of_gt (h.known hs'))
      · exact absurd heq (Nat.ne_of_lt (h.known hs))
      · exact h.distinct hs hs' heq
    · intro t ht
      obtain ⟨-, s, hs⟩ := h.owned (show 0 < r.load t from ht)
      obtain ⟨hkey, hid⟩ := slot?_eq_some.mp hs
      have hother : t.key ≠ r.slots.nextKey := by
        intro hk
        rw [hk, hfree] at hkey
        cases hkey
      exact ⟨nofun, s, slot?_eq_some.mpr
        ⟨(KeyTable.get?_insert_eq_some h.sound).mpr (Or.inr ⟨hother, hkey⟩), hid⟩⟩
    · intro k s hs _
      rcases hfound hs with ⟨rfl, rfl⟩ | ⟨-, hs⟩
      · refine Or.inl ⟨rfl, Or.inl rfl, ?_⟩
        -- nothing can be on its way for a number that was not given out yet
        by_contra hload
        have hpos : 0 < r.load ⟨r.slots.nextKey, r.connections.length⟩ :=
          Nat.pos_of_ne_zero hload
        obtain ⟨-, s, hs⟩ := h.owned hpos
        rw [slot?_eq_some, hfree] at hs
        cases hs.1
      · exact h.placed hs nofun

/-! ## Notices -/

theorem load_offer {t : Ticket} {pool : WorkerPool Job}
    (h : r.pool.offer { ticket := t } = .ok pool) (u : Ticket) :
    ({ r with pool } : EventLoop).load u = r.load u + (if u = t then 1 else 0) := by
  obtain ⟨-, rfl⟩ := WorkerPool.offer_eq_ok h
  simp only [load_eq, List.map_append, List.map_cons, List.map_nil, List.count_append,
    List.count_singleton, beq_iff_eq, eq_comm (a := t)]
  omega

/-- Handing over sends the slot in hand off. -/
theorem Disciplined.handOver (h : r.Disciplined (some key)) {s : Slot}
    (hs : r.slots.get? key = some s) : (r.handOver key).Disciplined none := by
  rcases handOver_cases hs with ⟨pool, hoffer, heq⟩ | ⟨-, heq⟩
  · refine h.depart hs (by rw [heq]) (fun t => ?_) (by rw [heq]; rfl)
    rw [heq, ← load_offer hoffer]
    rfl
  · refine h.depart hs (by rw [heq]) (fun t => ?_) (by rw [heq]; rfl)
    rw [heq]
    simp only [load_eq, List.count_append, List.count_singleton, beq_iff_eq, eq_comm (b := t)]
    simp only [EventLoop.updateSlot]
    omega

/-- Putting a connection back, what becomes known of its stream, and putting a deadline off
change no slot and nothing on its way. -/
theorem Disciplined.setConnection {inHand : Option Nat} (h : r.Disciplined inHand) (id : Nat)
    (c : Http.Connection) : (r.setConnection id c).Disciplined inHand :=
  h.congr rfl (fun _ => rfl) (by simp [EventLoop.setConnection])

theorem Disciplined.updateStream {inHand : Option Nat} (h : r.Disciplined inHand) (id : Nat)
    (f : Stream → Stream) : (r.updateStream id f).Disciplined inHand := by
  unfold EventLoop.updateStream
  split
  · exact h.setConnection _ _
  · exact h

theorem Disciplined.putOff {inHand : Option Nat} (h : r.Disciplined inHand)
    (hput : r.putOff now key = some r') :
    r'.Disciplined inHand ∧ r'.slots = r.slots := by
  rcases putOff_cases hput with ⟨-, rfl⟩ | ⟨id, found, deadlines, -, -, rfl⟩
  · exact ⟨h, rfl⟩
  · exact ⟨h.congr rfl (fun _ => rfl) (Nat.le_refl _), rfl⟩

theorem Disciplined.receive (h : r.Disciplined none) {s : Slot}
    (hs : r.slots.get? key = some s) (haway : s.isAway = false)
    (hstep : r.receive now key s = some r') : r'.Disciplined none := by
  have hset := fun c => h.setConnection s.id c
  have hpick := fun c => (hset c).pick (show (r.setConnection s.id c).slots.get? key = some s
    from hs) haway
  obtain ⟨c, -, hcases⟩ := receive_cases hstep
  rcases hcases with ⟨-, rfl⟩ | ⟨n, r₁, -, hput, rfl⟩ | ⟨-, hclose⟩ | ⟨-, hclose⟩ | ⟨f, -, hclose⟩
  · exact hset _
  · obtain ⟨h₁, hslots⟩ := (hpick _).putOff hput
    exact h₁.handOver (by rw [hslots]; exact hs)
  · exact (hpick _).close hclose
  · exact (hpick _).close hclose
  · exact (hpick _).close hclose

theorem Disciplined.transmit (h : r.Disciplined none) {s : Slot}
    (hs : r.slots.get? key = some s) (haway : s.isAway = false)
    (hstep : r.transmit now key s = some r') : r'.Disciplined none := by
  have hset := fun c => h.setConnection s.id c
  have hpick := fun c => (hset c).pick (show (r.setConnection s.id c).slots.get? key = some s
    from hs) haway
  obtain ⟨c, -, hcases⟩ := transmit_cases hstep
  rcases hcases with ⟨n, r₁, -, -, hput, hawait⟩ | ⟨n, -, -, hclose⟩ | ⟨n, -, hput⟩ | ⟨-, rfl⟩ |
    ⟨-, hclose⟩
  · obtain ⟨h₁, hslots⟩ := (hpick _).putOff hput
    refine h₁.await (fun s' hs' => ?_) hawait
    rw [hslots] at hs'
    have hsame : s' = s := Option.some.inj (hs'.symm.trans hs)
    rw [hsame, haway]
  · exact (hpick _).close hclose
  · exact ((hset _).putOff hput).1
  · exact hset _
  · exact (hpick _).close hclose

theorem Disciplined.isAway_eq_false (h : r.Disciplined none) {s : Slot} {readiness : Readiness}
    (hs : r.slots.get? key = some s) (hawaits : s.awaits = some readiness) :
    s.isAway = false := by
  rcases h.placed hs nofun with ⟨haway, -, -⟩ | ⟨-, hnone, -⟩
  · exact haway
  · rw [hawaits] at hnone
    cases hnone

theorem Disciplined.heed (h : r.Disciplined none) {n : Notice} (hstep : r.heed now n = some r') :
    r'.Disciplined none := by
  rcases heed_cases hstep with ⟨-, rfl⟩ | ⟨s, hs, hcases⟩
  · exact h
  rcases hcases with ⟨-, -, rfl⟩ | ⟨-, haway, hclose⟩ | ⟨-, hawaits, -, hread⟩ |
    ⟨-, hawaits, -, hwrite⟩ | ⟨-, -, -, rfl⟩
  · exact h.updateSlot (fun _ => rfl) (Or.inr fun _ => ⟨rfl, rfl⟩)
  · exact (h.pick hs haway).close hclose
  · exact h.receive hs (h.isAway_eq_false hs hawaits) hread
  · exact h.transmit hs (h.isAway_eq_false hs hawaits) hwrite
  · exact h

/-! ## The backlog, messages and the clock -/

theorem load_of_backlog {t : Ticket} {backlog : List Ticket} (h : r.backlog = t :: backlog)
    (u : Ticket) :
    ({ r with backlog } : EventLoop).load u + (if u = t then 1 else 0) = r.load u := by
  simp only [load_eq, h, List.count_cons, beq_iff_eq, eq_comm (a := t)]
  omega

theorem Disciplined.exists_slot (h : r.Disciplined none) {t : Ticket} {rest : Nat}
    (hload : rest + (if t = t then 1 else 0) = r.load t) : ∃ s, r.slot? t = some s := by
  rw [if_pos rfl] at hload
  exact (h.owned (by omega)).2

theorem Disciplined.offerFirst (h : r.Disciplined none) {more : Bool}
    (hstep : r.offerFirst = some (r', more)) : r'.Disciplined none := by
  rcases offerFirst_cases hstep with ⟨-, rfl, -⟩ | ⟨t, backlog, hbacklog, hcases⟩
  · exact h
  have hload := load_of_backlog hbacklog
  rcases hcases with ⟨hnone, -, -⟩ | ⟨s, reason, hs, -, hclose, -⟩ |
    ⟨s, pool, hs, -, hoffer, rfl, -⟩ | ⟨-, -, -, -, rfl, -⟩
  · obtain ⟨s, hs⟩ := h.exists_slot (hload t)
    rw [hnone] at hs
    cases hs
  · have htaken : Disciplined (some t.key) { r with backlog } := h.take hs rfl hload rfl
    exact htaken.close hclose
  · refine h.congr rfl (fun u => ?_) (Nat.le_refl _)
    rw [← hload u]
    exact load_offer (r := { r with backlog }) hoffer u
  · exact h

theorem load_of_message {t : Ticket} {next : Http.Need}
    {messages : List (Ticket × Http.Need)} (h : r.messages = (t, next) :: messages)
    (u : Ticket) :
    ({ r with messages } : EventLoop).load u + (if u = t then 1 else 0) = r.load u := by
  simp only [load_eq, h, List.map_cons, List.count_cons, beq_iff_eq, eq_comm (a := t)]
  omega

theorem Disciplined.hearFirst (h : r.Disciplined none) (hstep : r.hearFirst = some r') :
    r'.Disciplined none := by
  rcases hearFirst_cases hstep with ⟨-, rfl⟩ | ⟨t, next, messages, hmessages, hcases⟩
  · exact h
  have hload := load_of_message hmessages
  rcases hcases with ⟨hnone, -⟩ | ⟨s, hs, hcases⟩
  · obtain ⟨s, hs⟩ := h.exists_slot (hload t)
    rw [hnone] at hs
    cases hs
  · have htaken : Disciplined (some t.key) { r with messages } := h.take hs rfl hload rfl
    have hback := htaken.updateSlot (f := Slot.comeBack) (fun _ => rfl) (Or.inl rfl)
    rcases hcases with ⟨reason, -, hclose⟩ | ⟨readiness, -, -, hawait⟩
    · exact hback.close hclose
    · refine hback.await (fun s' hs' => ?_) hawait
      rw [get?_updateSlot, if_pos rfl] at hs'
      obtain ⟨u, -, rfl⟩ := Option.map_eq_some_iff.mp hs'
      rfl

theorem Disciplined.endOverdue (h : r.Disciplined none) {t : Ticket}
    (hstep : r.endOverdue t = some r') : r'.Disciplined none := by
  have hlate : (r.updateSlot t.key fun s => { s with deadline := none }).Disciplined none :=
    h.updateSlot (fun _ => rfl) (Or.inr fun _ => ⟨rfl, rfl⟩)
  rcases endOverdue_cases hstep with ⟨-, rfl⟩ | ⟨s, hs, ⟨-, rfl⟩ | ⟨haway, hclose⟩⟩
  · exact h
  · exact hlate.updateSlot (fun _ => rfl) (Or.inr fun _ => ⟨rfl, rfl⟩)
  · refine (hlate.pick (s := { s with deadline := none }) ?_ haway).close hclose
    rw [get?_updateSlot, if_pos rfl, (slot?_eq_some.mp hs).1]
    rfl

theorem Disciplined.tick (h : r.Disciplined none) (hstep : r.tick now = some r') :
    r'.Disciplined none :=
  tick_induction hstep (fun _ => h.congr rfl (fun _ => rfl) (Nat.le_refl _))
    fun _ _ _ hs hend => hs.endOverdue hend

/-! ## Workers -/

/-- Moving a worker changes what is on its way by what it holds before and after. -/
theorem load_move {worker : Nat} {phase : WorkerPool.Phase Job}
    (h : r.pool.workers[worker]? = some phase) (phase' : WorkerPool.Phase Job) (t : Ticket) :
    ({ r with pool := r.pool.move worker phase' } : EventLoop).load t
        + (heldBy? phase).toList.count t
      = r.load t + (heldBy? phase').toList.count t := by
  have hset := count_filterMap_set heldBy? t h phase'
  simp only [load_eq, WorkerPool.move]
  omega

/-- Taking a permit, looking at the flag and taking a job from the queue leave everything on
its way. -/
theorem load_poolStep {e : WorkerPool.Event Job} {pool : WorkerPool Job}
    (he : e = .post ∨ ∃ worker, e = .take worker ∨ e = .test worker ∨ e = .pop worker)
    (hpool : r.pool.step e = some pool) (t : Ticket) :
    ({ r with pool } : EventLoop).load t = r.load t := by
  rcases he with rfl | ⟨worker, rfl | rfl | rfl⟩
  · obtain ⟨-, rfl⟩ := WorkerPool.step_post_cases hpool
    rfl
  · obtain ⟨hphase, -, rfl⟩ := WorkerPool.step_take_cases hpool
    exact load_move (r := { r with pool := { r.pool with permits := r.pool.permits - 1 } })
      hphase .permitted t
  · obtain ⟨hphase, rfl⟩ := WorkerPool.step_test_cases hpool
    have hmove := load_move hphase (if r.pool.stopping then .exited else .cleared) t
    have hnothing : (heldBy? (if r.pool.stopping then .exited else .cleared)).toList.count t
        = 0 := by
      split <;> rfl
    rwa [hnothing] at hmove
  · obtain ⟨hphase, ⟨-, rfl⟩ | ⟨job, queue, hqueue, rfl⟩⟩ := WorkerPool.step_pop_cases hpool
    · exact load_move hphase .waiting t
    · have hmove := load_move (r := { r with pool := { r.pool with queue } }) hphase
        (.handling job) t
      simp only [load_eq, hqueue, List.map_cons, List.count_cons, heldBy?, Option.toList_some,
        Option.toList_none, List.count_nil] at hmove ⊢
      omega

theorem Disciplined.poolStep (h : r.Disciplined none) {e : WorkerPool.Event Job}
    (he : e = .post ∨ ∃ worker, e = .take worker ∨ e = .test worker ∨ e = .pop worker)
    (hstep : r.poolStep e = some r') : r'.Disciplined none := by
  obtain ⟨pool, hpool, rfl⟩ := Option.map_eq_some_iff.mp hstep
  exact h.congr rfl (load_poolStep he hpool) (Nat.le_refl _)

theorem load_process {worker handle : Nat} (hstep : r.process worker handle = some r')
    (t : Ticket) : r'.load t = r.load t := by
  obtain ⟨backend, u, c, -, hphase, -, rfl⟩ := process_cases hstep
  have := load_move hphase (.handling
    ⟨u, some (c.process r.service ⟨r.credentials, backend, r.storage⟩).1⟩) t
  simp only [heldBy?] at this
  exact Nat.add_right_cancel this

theorem Disciplined.process (h : r.Disciplined none) {worker handle : Nat}
    (hstep : r.process worker handle = some r') : r'.Disciplined none := by
  have hload := load_process hstep
  obtain ⟨backend, t, c, -, -, -, rfl⟩ := process_cases hstep
  exact h.congr rfl hload (by simp [EventLoop.setConnection])

theorem load_send {worker : Nat} (hstep : r.send worker = some r') (t : Ticket) :
    r'.load t = r.load t := by
  obtain ⟨u, next, hphase, rfl⟩ := send_cases hstep
  have := load_move hphase .waiting t
  simp only [load_eq, WorkerPool.move, heldBy?, Option.toList_some, Option.toList_none,
    List.count_nil, List.count_singleton, List.map_append, List.map_cons, List.map_nil,
    List.count_append] at this ⊢
  omega

theorem Disciplined.send (h : r.Disciplined none) {worker : Nat}
    (hstep : r.send worker = some r') : r'.Disciplined none := by
  have hload := load_send hstep
  obtain ⟨t, next, -, rfl⟩ := send_cases hstep
  exact h.congr rfl hload (Nat.le_refl _)

/-! ## Runs -/

/-- Every step keeps the invariant. -/
theorem disciplined_step {e : Event} (h : r.Disciplined none) (hstep : r.step e = some r') :
    r'.Disciplined none := by
  cases e with
  | arrive id deliveries =>
    cases hstep
    exact h.updateStream _ _
  | expect id acceptances =>
    cases hstep
    exact h.updateStream _ _
  | refuse ids =>
    cases hstep
    exact h.congr rfl (fun _ => rfl) (Nat.le_refl _)
  | poll batch =>
    unfold step at hstep
    simp only at hstep
    split at hstep
    case isTrue =>
      cases hstep
      exact h.congr rfl (fun _ => rfl) (Nat.le_refl _)
    case isFalse => cases hstep
  | heed now =>
    unfold step at hstep
    simp only at hstep
    split at hstep
    case h_1 => cases hstep
    case h_2 n batch _ =>
      have hbatch : Disciplined none { r with batch } :=
        h.congr rfl (fun _ => rfl) (Nat.le_refl _)
      exact hbatch.heed hstep
  | accept now peer stream => exact h.accept hstep
  | offer =>
    obtain ⟨⟨s, more⟩, hoffer, rfl⟩ := Option.map_eq_some_iff.mp hstep
    exact h.offerFirst hoffer
  | hear => exact h.hearFirst hstep
  | tick now => exact h.tick hstep
  | post => exact h.poolStep (Or.inl rfl) hstep
  | take worker => exact h.poolStep (Or.inr ⟨worker, Or.inl rfl⟩) hstep
  | test worker => exact h.poolStep (Or.inr ⟨worker, Or.inr (Or.inl rfl)⟩) hstep
  | pop worker => exact h.poolStep (Or.inr ⟨worker, Or.inr (Or.inr rfl)⟩) hstep
  | process worker handle => exact h.process hstep
  | send worker => exact h.send hstep

/-- A server that has just been started has no connections. -/
theorem disciplined_start {config : Config} {service : Http.Service}
    {credentials : Store.Credentials} {storage : Store.Storage} {handles : List Store.Backend}
    (h : start config service credentials storage handles = .ok r) : r.Disciplined none := by
  obtain ⟨pool, hpool, rfl⟩ := start_cases h
  have hidle : pool.queue = [] ∧ pool.workers.filterMap heldBy? = [] := by
    unfold WorkerPool.make at hpool
    split at hpool
    · cases hpool
    · split at hpool
      · cases hpool
      · cases hpool
        refine ⟨rfl, ?_⟩
        rw [List.filterMap_eq_nil_iff]
        intro phase hphase
        rw [List.eq_of_mem_replicate hphase]
        rfl
  have hnothing : ∀ key, ({} : KeyTable Slot).get? key = none := fun _ => rfl
  refine ⟨KeyTable.sound_empty, ?_, ?_, ?_, ?_⟩
  · intro key s hs
    rw [hnothing] at hs
    cases hs
  · intro key key' s s' hs
    rw [hnothing] at hs
    cases hs
  · intro t ht
    simp only [load_eq, hidle.1, hidle.2, List.map_nil, List.count_nil] at ht
    omega
  · intro key s hs
    rw [hnothing] at hs
    cases hs

/-- The invariant holds of every state a server can come to. -/
theorem disciplined_of_reachable {r₀ : EventLoop} {config : Config} {service : Http.Service}
    {credentials : Store.Credentials} {storage : Store.Storage} {handles : List Store.Backend}
    (hstart : start config service credentials storage handles = .ok r₀)
    (h : Reachable r₀ r) : r.Disciplined none :=
  h.induction (disciplined_start hstart) fun _ _ _ hs hstep => disciplined_step hs hstep

/-! ## What follows -/

theorem Resting.not_travelling {s : Slot} (h : r.Resting key s) : ¬ r.Travelling key s := by
  intro htravel
  have := h.1.symm.trans htravel.1
  cases this

/-- Two workers do not hold the same connection. -/
theorem Disciplined.worker_unique (h : r.Disciplined none) {i j : Nat} {job job' : Job}
    (hi : r.pool.workers[i]? = some (.handling job))
    (hj : r.pool.workers[j]? = some (.handling job')) (hid : job.ticket.id = job'.ticket.id) :
    i = j := by
  by_contra hne
  have hnothing : ∀ u, (heldBy? (.waiting : WorkerPool.Phase Job)).toList.count u = 0 :=
    fun _ => rfl
  have hself : ∀ job : Job, (heldBy? (.handling job)).toList.count job.ticket = 1 :=
    fun _ => List.count_singleton_self
  -- what the second worker holds is still counted when the first has let go
  have hfirst := fun u => load_move hi .waiting u
  have hother : (r.pool.workers.set i .waiting)[j]? = some (.handling job') := by
    rw [List.getElem?_set_ne hne]
    exact hj
  have hsecond := load_move (r := { r with pool := r.pool.move i .waiting }) hother .waiting
    job'.ticket
  rw [hself, hnothing] at hsecond
  have howned : 0 < r.load job.ticket := by
    have := hfirst job.ticket
    rw [hself, hnothing] at this
    omega
  have howned' : 0 < r.load job'.ticket := by
    have := hfirst job'.ticket
    rw [hnothing] at this
    omega
  obtain ⟨-, s, hs⟩ := h.owned howned
  obtain ⟨-, s', hs'⟩ := h.owned howned'
  obtain ⟨hkey, hsid⟩ := slot?_eq_some.mp hs
  obtain ⟨hkey', hsid'⟩ := slot?_eq_some.mp hs'
  have hkeys : job.ticket.key = job'.ticket.key :=
    h.distinct hkey hkey' (by rw [hsid, hsid', hid])
  have hticket : job'.ticket = job.ticket := by
    rw [← ticket_eq hsid, ← ticket_eq hsid', hkeys, hsid, hsid', hid]
  have htwice := hfirst job.ticket
  rw [hself, hnothing] at htwice
  rw [hticket] at hsecond
  rcases h.placed hkey nofun with ⟨-, -, hload⟩ | ⟨-, -, hload⟩ <;>
  · rw [ticket_eq hsid] at hload
    omega

/-- A connection on its way does not wait for its socket. -/
theorem Disciplined.awaits_of_transit (h : r.Disciplined none) {t : Ticket}
    (ht : t ∈ r.transit) {s : Slot} (hs : r.slots.get? key = some s) (hid : s.id = t.id) :
    s.awaits = none := by
  have hload := mem_transit_iff.mp ht
  obtain ⟨-, s', hs'⟩ := h.owned hload
  obtain ⟨hkey', hid'⟩ := slot?_eq_some.mp hs'
  have hkey : key = t.key := h.distinct hs hkey' (hid.trans hid'.symm)
  rcases h.placed hs nofun with ⟨-, -, hzero⟩ | ⟨-, hnone, -⟩
  · rw [hkey, ticket_eq hid] at hzero
    omega
  · exact hnone

/-- **One hand on each connection.**  In every state a server can come to, each slot that is
open either rests or travels, and everything on its way belongs to an open slot.  So no two
workers hold the same connection, and the loop neither looks at a connection on its way nor
changes it: whatever is put in its place, each step of the loop comes to the same. -/
theorem rests_or_travels {r₀ : EventLoop} {config : Config} {service : Http.Service}
    {credentials : Store.Credentials} {storage : Store.Storage} {handles : List Store.Backend}
    (hstart : start config service credentials storage handles = .ok r₀)
    (h : Reachable r₀ r) :
    (∀ key s, r.slots.get? key = some s → Xor (r.Resting key s) (r.Travelling key s)) ∧
    (∀ t ∈ r.transit, ∃ s, r.slot? t = some s) ∧
    (∀ (i j : Nat) (job job' : Job), r.pool.workers[i]? = some (.handling job) →
      r.pool.workers[j]? = some (.handling job') → job.ticket.id = job'.ticket.id → i = j) ∧
    (∀ t ∈ r.transit, ∀ e : Event, e.isOfLoop = true →
      (∀ c, (r.setConnection t.id c).step e = (r.step e).map (·.setConnection t.id c)) ∧
      ∀ r', r.step e = some r' → r'.connections[t.id]? = r.connections[t.id]?) := by
  have hr := disciplined_of_reachable hstart h
  refine ⟨?_, ?_, ?_, ?_⟩
  · intro key s hs
    rcases hr.placed hs nofun with hrest | htravel
    · exact Or.inl ⟨hrest, hrest.not_travelling⟩
    · exact Or.inr ⟨htravel, fun hrest => hrest.not_travelling htravel⟩
  · intro t ht
    exact (hr.owned (mem_transit_iff.mp ht)).2
  · intro i j job job' hi hj hid
    exact hr.worker_unique hi hj hid
  · intro t ht e he
    obtain ⟨-, s, hs⟩ := hr.owned (mem_transit_iff.mp ht)
    obtain ⟨hkey, hid⟩ := slot?_eq_some.mp hs
    have hknown : t.id < r.connections.length := hid ▸ hr.known hkey
    have hfree : ∀ key slot, r.slots.get? key = some slot → slot.id = t.id →
        slot.awaits = none := fun _ _ hslot => hr.awaits_of_transit ht hslot
    exact ⟨fun c => setConnection_step c r he hknown hfree,
      fun r' hstep => connection_of_step he hknown hfree hstep⟩

/-- A server with the settings that hold when nothing is set, and without files. -/
def bare : EventLoop where
  service := ⟨⟨"./root", "/judge.html"⟩, Files.Tree.empty.view, fun _ => none⟩
  config := {}
  pool := { capacity := 10000, workers := List.replicate 8 .waiting }
  credentials := {}
  storage := {}
  handles := [.memory]

/-- Its first client, with what is on its way from there. -/
def firstClient (deliveries : List Delivery) : Http.Connection :=
  .accepted 0 ⟨.v4 [127, 0, 0, 1], 4000, 0⟩ { arriving := deliveries } 2048 1024

/-- The server when it has been told that there is something to read. -/
def visited : EventLoop where
  service := bare.service
  config := {}
  slots := ({} : KeyTable Slot).insert (.opened 0 ⟨0, 0⟩)
  deadlines := ⟨[⟨0, some ⟨15, ⟨0, 0⟩, none, none⟩⟩], [], some 0, some 0, 1⟩
  pool := bare.pool
  connections := [firstClient [.data [71]]]
  openCount := 1
  batch := [{ key := 0, source := 0, readable := true }]
  credentials := {}
  storage := {}
  handles := [.memory]

/-- The first octet of the first client sends its connection off. -/
theorem rests_or_travels_of_first_octet :
    ∃ r, Reachable bare r ∧ r.transit = [⟨0, 0⟩] ∧
      (∃ s, r.slots.get? 0 = some s ∧ Xor (r.Resting 0 s) (r.Travelling 0 s)) ∧
      ∀ c, (r.setConnection 0 c).step .hear = (r.step .hear).map (·.setConnection 0 c) := by
  have hstart : start {} bare.service {} {} [.memory] = .ok bare := rfl
  have hvisited : bare.run
      [.accept 0 ⟨.v4 [127, 0, 0, 1], 4000, 0⟩ { arriving := [.data [71]] },
        .poll [{ key := 0, source := 0, readable := true }]] = some visited := rfl
  have hheed : (visited.step (.heed 1)).map
      (fun r => (r.transit, (r.slots.get? 0).isSome)) = some ([⟨0, 0⟩], true) := by decide +kernel
  obtain ⟨r, hheed, hstate⟩ := Option.map_eq_some_iff.mp hheed
  obtain ⟨htransit, hslot⟩ := Prod.mk.inj hstate
  obtain ⟨s, hs⟩ := Option.isSome_iff_exists.mp hslot
  obtain ⟨hplaced, -, -, hfree⟩ :=
    rests_or_travels hstart (Reachable.step ⟨_, hvisited⟩ hheed)
  exact ⟨r, Reachable.step ⟨_, hvisited⟩ hheed, htransit, ⟨s, hs, hplaced 0 s hs⟩,
    (hfree ⟨0, 0⟩ (htransit ▸ List.mem_singleton_self _) .hear rfl).1⟩

end EventLoop
end Server
end SiteServer
