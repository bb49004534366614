import Mathlib.Data.List.Nodup
import SiteServer.Proofs.Http.Exchange
import SiteServer.Proofs.Server.OneShot
import SiteServer.Server.History

/-!
# One response for each request

What a connection needs next is known wherever it is: a slot that waits to be read has a
connection that needs to be read, a worker that has answered knows what the connection needs
next, and so does its message.  `Expects r id need` says that somewhere in the server it is
expected that connection `id` needs this.

* Since a connection is in one place only, there are no two expectations about it
  (`Disciplined.expects_unique`).
* Most steps pass expectations on and change no connection (`Quiet`).  Reading, writing and
  processing do what is expected, and leave the connection ready for what is expected next
  (`Kept.of_calls`).

So every call on a connection has its place in the order of an exchange, and what a client is
sent are the responses to its own requests, one after another (`calls_in_order`).
-/

namespace SiteServer
namespace Server

open Http (Need Call Connection)

/-- What a worker will do with a job, or has found out. -/
def Job.demand (job : Job) : Ticket × Need := (job.ticket, job.outcome.getD .read)

/-- What is known of the connection in the hands of a worker. -/
def demandOf? : WorkerPool.Phase Job → Option (Ticket × Need)
  | .handling job => some job.demand
  | _ => none

/-- What a connection needs whose slot waits for its socket. -/
def Readiness.need : Readiness → Need
  | read => .read
  | write => .write

namespace EventLoop

variable {r r' r'' : EventLoop} {key now : Nat} {v : Http.Service} {hs : List Call}

/-! ## Expectations -/

/-- Everything on its way, with what the connection needs. -/
def demands (r : EventLoop) : List (Ticket × Need) :=
  r.backlog.map (fun t => (t, .read)) ++ (r.pool.queue.map Job.demand ++
    (r.pool.workers.filterMap demandOf? ++ r.messages))

/-- Whether it is expected that a connection needs this. -/
def Expects (r : EventLoop) (id : Nat) (need : Need) : Prop :=
  (∃ key s readiness, r.slots.get? key = some s ∧ s.id = id ∧ s.awaits = some readiness ∧
      readiness.need = need) ∨
    ∃ t, t.id = id ∧ (t, need) ∈ r.demands

theorem map_fst_demands (r : EventLoop) : r.demands.map Prod.fst = r.transit := by
  have hworkers : r.pool.workers.filterMap (fun phase => (demandOf? phase).map Prod.fst)
      = r.pool.workers.filterMap heldBy? := by
    congr 1
    funext phase
    cases phase <;> rfl
  have hjobs : Prod.fst ∘ Job.demand = Job.ticket := rfl
  simp only [demands, transit, List.map_append, List.map_map, List.map_filterMap, hworkers, hjobs]
  congr 1
  exact List.map_id _

theorem mem_transit_of_mem_demands {t : Ticket} {need : Need} (h : (t, need) ∈ r.demands) :
    t ∈ r.transit := by
  rw [← map_fst_demands]
  exact List.mem_map_of_mem h

/-- No connection is on its way twice. -/
def Lone (r : EventLoop) : Prop := (r.transit.map Ticket.id).Nodup

/-- What is demanded of a connection on its way is unique. -/
theorem Lone.demand_unique (h : r.Lone) {t t' : Ticket} {need need' : Need}
    (ht : (t, need) ∈ r.demands) (ht' : (t', need') ∈ r.demands) (hid : t.id = t'.id) :
    need = need' := by
  have hnodup : (r.demands.map fun m => m.1.id).Nodup := by
    have hmap := map_fst_demands r
    rw [Lone, ← hmap, List.map_map] at h
    exact h
  have hsame := List.inj_on_of_nodup_map hnodup ht ht' hid
  exact congrArg Prod.snd hsame

theorem Disciplined.lone (h : r.Disciplined none) : r.Lone := by
  refine List.Nodup.map_on (fun t ht t' ht' hid => ?_) (List.nodup_iff_count_le_one.mpr fun t => ?_)
  · obtain ⟨-, s, hs⟩ := h.owned (mem_transit_iff.mp ht)
    obtain ⟨-, s', hs'⟩ := h.owned (mem_transit_iff.mp ht')
    obtain ⟨hkey, hsid⟩ := slot?_eq_some.mp hs
    obtain ⟨hkey', hsid'⟩ := slot?_eq_some.mp hs'
    have hkeys : t.key = t'.key := h.distinct hkey hkey' (by rw [hsid, hsid', hid])
    rw [← ticket_eq hsid, ← ticket_eq hsid', hkeys, hsid, hsid', hid]
  · rcases Nat.eq_zero_or_pos (r.load t) with hzero | hpos
    · exact Nat.le_trans (Nat.le_of_eq hzero) (Nat.zero_le 1)
    · obtain ⟨-, s, hs⟩ := h.owned hpos
      obtain ⟨hkey, hsid⟩ := slot?_eq_some.mp hs
      rcases h.placed hkey nofun with ⟨-, -, hload⟩ | ⟨-, -, hload⟩ <;>
      · rw [ticket_eq hsid] at hload
        unfold load at hload
        omega

/-- A connection of which something is expected has a slot. -/
theorem Disciplined.slot_of_expects (h : r.Disciplined none) {id : Nat} {need : Need}
    (he : r.Expects id need) : ∃ key s, r.slots.get? key = some s ∧ s.id = id := by
  rcases he with ⟨key, s, readiness, hs, hid, -, -⟩ | ⟨t, rfl, ht⟩
  · exact ⟨key, s, hs, hid⟩
  · obtain ⟨-, s, hs⟩ := h.owned (mem_transit_iff.mp (mem_transit_of_mem_demands ht))
    obtain ⟨hkey, hid⟩ := slot?_eq_some.mp hs
    exact ⟨t.key, s, hkey, hid⟩

theorem Disciplined.lt_of_expects (h : r.Disciplined none) {id : Nat} {need : Need}
    (he : r.Expects id need) : id < r.connections.length := by
  obtain ⟨key, s, hs, rfl⟩ := h.slot_of_expects he
  exact h.known hs

/-- There are no two expectations about a connection. -/
theorem Disciplined.expects_unique (h : r.Disciplined none) {id : Nat} {need need' : Need}
    (he : r.Expects id need) (he' : r.Expects id need') : need = need' := by
  rcases he with ⟨key, s, readiness, hs, rfl, hawaits, rfl⟩ | ⟨t, rfl, ht⟩ <;>
  rcases he' with ⟨key', s', readiness', hs', hid, hawaits', rfl⟩ | ⟨t', hid, ht'⟩
  · -- two slots of one connection are one
    obtain rfl := h.distinct hs' hs hid
    rw [hs] at hs'
    cases hs'
    rw [hawaits] at hawaits'
    cases hawaits'
    rfl
  · have hnone := h.awaits_of_transit (mem_transit_of_mem_demands ht') hs hid.symm
    rw [hawaits] at hnone
    cases hnone
  · have hnone := h.awaits_of_transit (mem_transit_of_mem_demands ht) hs' hid
    rw [hawaits'] at hnone
    cases hnone
  · exact h.lone.demand_unique ht ht' hid.symm

/-- A connection that a worker is about to process needs to be read. -/
theorem expects_of_handling {worker : Nat} {t : Ticket}
    (h : r.pool.workers[worker]? = some (.handling ⟨t, none⟩)) : r.Expects t.id .read := by
  refine Or.inr ⟨t, rfl, ?_⟩
  simp only [demands, List.mem_append]
  exact Or.inr (Or.inr (Or.inl (List.mem_filterMap.mpr ⟨_, List.mem_of_getElem? h, rfl⟩)))

/-! ## Steps that pass expectations on -/

/-- No connection is changed, and nothing new is expected. -/
structure Quiet (r r' : EventLoop) : Prop where
  connections_eq : r'.connections = r.connections
  service_eq : r'.service = r.service
  expects : ∀ {id need}, r'.Expects id need → r.Expects id need

theorem Quiet.refl (r : EventLoop) : Quiet r r := ⟨rfl, rfl, id⟩

theorem Quiet.trans (h : Quiet r r') (h' : Quiet r' r'') : Quiet r r'' :=
  ⟨h'.connections_eq.trans h.connections_eq, h'.service_eq.trans h.service_eq,
    fun he => h.expects (h'.expects he)⟩

/-- Slots may be given up, and demands may be moved or dropped. -/
theorem Quiet.of_le (hconnections : r'.connections = r.connections)
    (hservice : r'.service = r.service)
    (hslots : ∀ {key s}, r'.slots.get? key = some s → s.awaits ≠ none →
      ∃ s₀, r.slots.get? key = some s₀ ∧ s₀.id = s.id ∧ s₀.awaits = s.awaits)
    (hdemands : ∀ m ∈ r'.demands, m ∈ r.demands) : Quiet r r' where
  connections_eq := hconnections
  service_eq := hservice
  expects := by
    rintro id need (⟨key, s, readiness, hs, hid, hawaits, hneed⟩ | ⟨t, hid, ht⟩)
    · obtain ⟨s₀, hs₀, hid₀, hawaits₀⟩ := hslots hs (by rw [hawaits]; exact Option.some_ne_none _)
      exact Or.inl ⟨key, s₀, readiness, hs₀, hid₀.trans hid, hawaits₀.trans hawaits, hneed⟩
    · exact Or.inr ⟨t, hid, hdemands _ ht⟩

theorem Quiet.of_demands (hconnections : r'.connections = r.connections)
    (hservice : r'.service = r.service) (hslots : r'.slots = r.slots)
    (hdemands : ∀ m ∈ r'.demands, m ∈ r.demands) : Quiet r r' :=
  .of_le hconnections hservice (fun hs _ => ⟨_, hslots ▸ hs, rfl, rfl⟩) hdemands

/-- A slot may change, as long as it does not wait for something new. -/
theorem quiet_updateSlot (r : EventLoop) (key : Nat) {f : Slot → Slot}
    (hf : ∀ s, (f s).id = s.id ∧ ((f s).awaits = s.awaits ∨ (f s).awaits = none)) :
    Quiet r (r.updateSlot key f) := by
  refine .of_le rfl rfl (fun {k s'} hs' hawaits => ?_) fun m hm => hm
  obtain ⟨s, hs, rfl⟩ := KeyTable.get?_modify_eq_some.mp hs'
  refine ⟨s, hs, ?_⟩
  by_cases hk : k = key
  · rw [if_pos hk] at hawaits ⊢
    rcases (hf s).2 with hsame | hnone
    · exact ⟨(hf s).1.symm, hsame.symm⟩
    · exact absurd hnone hawaits
  · rw [if_neg hk]
    exact ⟨rfl, rfl⟩

theorem quiet_close {reason : ClosingReason} (h : r.close key reason = some r') : Quiet r r' := by
  rcases close_cases h with ⟨-, rfl⟩ | ⟨slot, deadlines, -, -, rfl⟩
  · exact .refl _
  · exact .of_le rfl rfl
      (fun hs _ => ⟨_, (KeyTable.get?_remove_eq_some.mp hs).2, rfl, rfl⟩) fun m hm => hm

theorem quiet_putOff (h : r.putOff now key = some r') : Quiet r r' := by
  rcases putOff_cases h with ⟨-, rfl⟩ | ⟨id, found, deadlines, -, -, rfl⟩
  · exact .refl _
  · exact .of_demands rfl rfl rfl fun m hm => hm

/-- Handing in a job adds what is demanded of it. -/
theorem mem_demands_offer {t : Ticket} {pool : WorkerPool Job}
    (h : r.pool.offer { ticket := t } = .ok pool) {m : Ticket × Need}
    (hm : m ∈ ({ r with pool } : EventLoop).demands) : m ∈ r.demands ∨ m = (t, .read) := by
  obtain ⟨-, rfl⟩ := WorkerPool.offer_eq_ok h
  simp only [demands, List.mem_append, List.map_append, List.map_cons, List.map_nil,
    List.mem_singleton] at hm ⊢
  rcases hm with hm | (hm | hm) | hm
  · exact Or.inl (Or.inl hm)
  · exact Or.inl (Or.inr (Or.inl hm))
  · exact Or.inr hm
  · exact Or.inl (Or.inr (Or.inr hm))

/-- Handing over passes on that the connection needs to be read. -/
theorem quiet_handOver {s : Slot} (hs : r.slots.get? key = some s)
    (hawaits : s.awaits = some .read) : Quiet r (r.handOver key) := by
  have hslot := quiet_updateSlot r key (f := Slot.depart) fun s => ⟨rfl, Or.inr rfl⟩
  have hread : r.Expects s.id .read := Or.inl ⟨key, s, .read, hs, rfl, hawaits, rfl⟩
  rcases handOver_cases hs with ⟨pool, hoffer, heq⟩ | ⟨-, heq⟩
  · refine ⟨by rw [heq]; rfl, by rw [heq]; rfl, fun {id need} he => ?_⟩
    rw [heq] at he
    rcases he with hwait | ⟨t, hid, ht⟩
    · exact hslot.expects (Or.inl hwait)
    · rcases mem_demands_offer (r := r.updateSlot key Slot.depart) hoffer ht with ht | ht
      · exact Or.inr ⟨t, hid, ht⟩
      · cases ht
        rw [← hid]
        exact hread
  · refine ⟨by rw [heq]; rfl, by rw [heq]; rfl, fun {id need} he => ?_⟩
    rw [heq] at he
    rcases he with hwait | ⟨t, hid, ht⟩
    · exact hslot.expects (Or.inl hwait)
    · simp only [demands, List.map_append, List.map_cons, List.map_nil, List.mem_append,
        List.mem_singleton] at ht
      rcases ht with (ht | ht) | ht
      · refine Or.inr ⟨t, hid, ?_⟩
        rw [demands, List.mem_append]
        exact Or.inl ht
      · cases ht
        rw [← hid]
        exact hread
      · refine Or.inr ⟨t, hid, ?_⟩
        rw [demands, List.mem_append, List.mem_append, List.mem_append]
        exact Or.inr ht

/-- Waiting for a socket is expected of the connection in the slot, and nothing else is
new. -/
theorem expects_of_await {readiness : Readiness} (h : r.await key readiness = some r')
    {id : Nat} {need : Need} (he : r'.Expects id need) :
    r.Expects id need ∨
      ∃ s, r.slots.get? key = some s ∧ s.id = id ∧ readiness.need = need := by
  rcases await_cases h with ⟨-, rfl⟩ | ⟨slot, hslot, hcases⟩
  · exact Or.inl he
  have hupdated : (r.updateSlot key (·.await readiness)).Expects id need := by
    rcases hcases with ⟨-, rfl⟩ | ⟨-, hclose⟩
    · exact he
    · exact (quiet_close hclose).expects he
  rcases hupdated with ⟨k, s', other, hs', hid, hawaits, hneed⟩ | hdemand
  · obtain ⟨s, hs, rfl⟩ := KeyTable.get?_modify_eq_some.mp hs'
    by_cases hk : k = key
    · subst hk
      rw [if_pos rfl] at hid hawaits
      cases hawaits
      exact Or.inr ⟨s, hs, hid, hneed⟩
    · rw [if_neg hk] at hid hawaits
      exact Or.inl (Or.inl ⟨k, s, other, hs, hid, hawaits, hneed⟩)
  · exact Or.inl (Or.inr hdemand)

theorem service_await {readiness : Readiness} (h : r.await key readiness = some r') :
    r'.service = r.service := by
  rcases await_cases h with ⟨-, rfl⟩ | ⟨slot, -, ⟨-, rfl⟩ | ⟨-, hclose⟩⟩
  · rfl
  · rfl
  · exact (quiet_close hclose).service_eq.trans rfl

theorem quiet_offerFirst {more : Bool} (h : r.offerFirst = some (r', more)) : Quiet r r' := by
  rcases offerFirst_cases h with ⟨-, rfl, -⟩ | ⟨t, backlog, hbacklog, hcases⟩
  · exact .refl _
  have hrest : ∀ m ∈ ({ r with backlog } : EventLoop).demands, m ∈ r.demands := by
    intro m hm
    simp only [demands, hbacklog, List.map_cons, List.mem_append, List.mem_cons] at hm ⊢
    tauto
  have htaken : Quiet r { r with backlog } := .of_demands rfl rfl rfl hrest
  rcases hcases with ⟨-, rfl, -⟩ | ⟨s, reason, -, -, hclose, -⟩ | ⟨s, pool, -, -, hoffer, rfl, -⟩ |
    ⟨s, -, -, -, rfl, -⟩
  · exact htaken
  · exact htaken.trans (quiet_close hclose)
  · refine .of_demands rfl rfl rfl fun m hm => ?_
    rcases mem_demands_offer (r := { r with backlog }) hoffer hm with hm | rfl
    · exact hrest m hm
    · simp only [demands, hbacklog, List.map_cons, List.mem_append, List.mem_cons, true_or]
  · exact .refl _

/-- A message becomes what its slot waits for. -/
theorem quiet_hearFirst (h : r.hearFirst = some r') : Quiet r r' := by
  rcases hearFirst_cases h with ⟨-, rfl⟩ | ⟨t, next, messages, hmessages, hcases⟩
  · exact .refl _
  have hrest : ∀ m ∈ ({ r with messages } : EventLoop).demands, m ∈ r.demands := by
    intro m hm
    simp only [demands, hmessages, List.mem_append, List.mem_cons] at hm ⊢
    tauto
  have hfirst : (t, next) ∈ r.demands := by
    simp only [demands, hmessages, List.mem_append, List.mem_cons, true_or, or_true]
  have htaken : Quiet r ({ r with messages } : EventLoop) := .of_demands rfl rfl rfl hrest
  rcases hcases with ⟨-, rfl⟩ | ⟨s, hs, hcases⟩
  · exact htaken
  have hback : Quiet r (({ r with messages } : EventLoop).updateSlot t.key Slot.comeBack) :=
    htaken.trans (quiet_updateSlot _ _ fun s => ⟨rfl, Or.inl rfl⟩)
  rcases hcases with ⟨reason, -, hclose⟩ | ⟨readiness, -, hnext, hawait⟩
  · exact hback.trans (quiet_close hclose)
  · refine ⟨(connections_await hawait).trans hback.connections_eq,
      (service_await hawait).trans hback.service_eq, fun {id need} he => ?_⟩
    rcases expects_of_await hawait he with he | ⟨s', hs', rfl, rfl⟩
    · exact hback.expects he
    · obtain ⟨hkey, hid⟩ := slot?_eq_some.mp hs
      rw [get?_updateSlot, if_pos rfl] at hs'
      obtain ⟨s₀, hs₀, rfl⟩ := Option.map_eq_some_iff.mp hs'
      have hsame : s₀ = s := Option.some.inj (hs₀.symm.trans hkey)
      refine Or.inr ⟨t, ?_, ?_⟩
      · rw [hsame]
        exact hid.symm
      · rcases hnext with ⟨rfl, rfl⟩ | ⟨rfl, rfl⟩ <;> exact hfirst

theorem quiet_endOverdue {t : Ticket} (h : r.endOverdue t = some r') : Quiet r r' := by
  have hlate : Quiet r (r.updateSlot t.key fun s => { s with deadline := none }) :=
    quiet_updateSlot _ _ fun s => ⟨rfl, Or.inl rfl⟩
  rcases endOverdue_cases h with ⟨-, rfl⟩ | ⟨s, -, ⟨-, rfl⟩ | ⟨-, hclose⟩⟩
  · exact .refl _
  · exact hlate.trans (quiet_updateSlot _ _ fun s => ⟨rfl, Or.inl rfl⟩)
  · exact hlate.trans (quiet_close hclose)

theorem quiet_tick (h : r.tick now = some r') : Quiet r r' :=
  tick_induction (P := fun s => Quiet r s) h
    (fun _ => .of_demands rfl rfl rfl fun _ hm => hm)
    fun _ _ _ hs hend => hs.trans (quiet_endOverdue hend)

/-- Moving a worker changes what is demanded by what it holds before and after. -/
theorem mem_demands_move {worker : Nat} {phase' : WorkerPool.Phase Job} {m : Ticket × Need}
    (hm : m ∈ ({ r with pool := r.pool.move worker phase' } : EventLoop).demands) :
    m ∈ r.demands ∨ demandOf? phase' = some m := by
  simp only [demands, WorkerPool.move, List.mem_append] at hm ⊢
  rcases hm with hm | hm | hm | hm
  · exact Or.inl (Or.inl hm)
  · exact Or.inl (Or.inr (Or.inl hm))
  · obtain ⟨phase, hphase, hdemand⟩ := List.mem_filterMap.mp hm
    rcases List.mem_or_eq_of_mem_set hphase with hphase | rfl
    · exact Or.inl (Or.inr (Or.inr (Or.inl (List.mem_filterMap.mpr ⟨phase, hphase, hdemand⟩))))
    · exact Or.inr hdemand
  · exact Or.inl (Or.inr (Or.inr (Or.inr hm)))

theorem quiet_poolStep {e : WorkerPool.Event Job}
    (he : e = .post ∨ ∃ worker, e = .take worker ∨ e = .test worker ∨ e = .pop worker)
    (h : r.poolStep e = some r') : Quiet r r' := by
  obtain ⟨pool, hpool, rfl⟩ := Option.map_eq_some_iff.mp h
  refine .of_demands rfl rfl rfl fun m hm => ?_
  rcases he with rfl | ⟨worker, rfl | rfl | rfl⟩
  · obtain ⟨-, rfl⟩ := WorkerPool.step_post_cases hpool
    exact hm
  · obtain ⟨-, -, rfl⟩ := WorkerPool.step_take_cases hpool
    rcases mem_demands_move (r := { r with pool := { r.pool with permits := _ } }) hm with hm | hm
    · exact hm
    · cases hm
  · obtain ⟨-, rfl⟩ := WorkerPool.step_test_cases hpool
    rcases mem_demands_move hm with hm | hm
    · exact hm
    · split at hm <;> cases hm
  · obtain ⟨-, ⟨-, rfl⟩ | ⟨job, queue, hqueue, rfl⟩⟩ := WorkerPool.step_pop_cases hpool
    · rcases mem_demands_move hm with hm | hm
      · exact hm
      · cases hm
    · rcases mem_demands_move (r := { r with pool := { r.pool with queue } }) hm with hm | hm
      · simp only [demands, hqueue, List.map_cons, List.mem_append, List.mem_cons] at hm ⊢
        tauto
      · cases hm
        simp only [demands, hqueue, List.map_cons, List.mem_append, List.mem_cons, true_or, or_true]

/-- A worker's message says what the worker has found out. -/
theorem quiet_send {worker : Nat} (h : r.send worker = some r') : Quiet r r' := by
  obtain ⟨t, next, hphase, rfl⟩ := send_cases h
  have hheld : (t, next) ∈ r.demands := by
    simp only [demands, List.mem_append]
    exact Or.inr (Or.inr (Or.inl (List.mem_filterMap.mpr
      ⟨_, List.mem_of_getElem? hphase, rfl⟩)))
  refine .of_demands rfl rfl rfl fun m hm => ?_
  have hm' : m ∈ ({ r with pool := r.pool.move worker .waiting } : EventLoop).demands ∨
      m = (t, next) := by
    simp only [demands, WorkerPool.move, List.mem_append, List.mem_singleton] at hm ⊢
    tauto
  rcases hm' with hm | rfl
  · rcases mem_demands_move hm with hm | hm
    · exact hm
    · cases hm
  · exact hheld

/-- Whatever comes of reading from a slot that waits to be read, the rest is quiet. -/
theorem quiet_receive {s : Slot} (hs : r.slots.get? key = some s)
    (hawaits : s.awaits = some .read) {c : Connection} (hc : r.connections[s.id]? = some c)
    (h : r.receive now key s = some r') : Quiet (r.setConnection s.id c.read.2) r' := by
  obtain ⟨c₀, hc₀, hcases⟩ := receive_cases h
  obtain rfl : c₀ = c := Option.some.inj (hc₀.symm.trans hc)
  rcases hcases with ⟨-, rfl⟩ | ⟨n, r₁, -, hput, rfl⟩ | ⟨-, hclose⟩ | ⟨-, hclose⟩ |
    ⟨f, -, hclose⟩
  · exact .refl _
  · have hslots : r₁.slots.get? key = some s := by
      rcases putOff_cases hput with ⟨-, rfl⟩ | ⟨_, _, _, -, -, rfl⟩ <;> exact hs
    exact (quiet_putOff hput).trans (quiet_handOver hslots hawaits)
  · exact quiet_close hclose
  · exact quiet_close hclose
  · exact quiet_close hclose

/-! ## Calls are what changes connections -/

theorem replay_heed {n : Notice} (h : r.heed now n = some r') :
    (r.noticeCalls n).foldlM (Call.replay? r.service) r.connections = some r'.connections := by
  rcases heed_cases h with ⟨hnone, rfl⟩ | ⟨s, hs, hcases⟩
  · rw [noticeCalls, hnone]
    rfl
  simp only [noticeCalls, hs]
  rcases hcases with ⟨hhang, -, rfl⟩ | ⟨hhang, -, hclose⟩ | ⟨hhang, hawaits, hready, hread⟩ |
    ⟨hhang, hawaits, hready, hwrite⟩ | ⟨hhang, hnotRead, hnotWrite, rfl⟩
  · rw [hhang]
    rfl
  · rw [hhang, connections_close hclose]
    rfl
  · obtain ⟨c, hc, -⟩ := receive_cases hread
    rw [(quiet_receive hs hawaits hc hread).connections_eq]
    simp only [hhang, hawaits, hc, hready, if_true, List.foldlM_cons, List.foldlM_nil,
      Call.replay?, Call.after]
    rfl
  · obtain ⟨c, hc, hcases⟩ := transmit_cases hwrite
    obtain ⟨hid, -⟩ := List.getElem?_eq_some_iff.mp hc
    have hone : [(⟨s.id, .write, c⟩ : Call)].foldlM (Call.replay? r.service) r.connections
        = some (r.setConnection s.id c.write.2).connections := by
      simp only [List.foldlM_cons, List.foldlM_nil, Call.replay?, Call.after, hc, if_true]
      rfl
    simp only [hhang, hawaits, hc, hready, if_true]
    rcases hcases with ⟨n, r₁, hdone, hkeep, hput, hawait⟩ | ⟨n, hdone, hkeep, hclose⟩ |
      ⟨n, hblocked, hput⟩ | ⟨hblocked, rfl⟩ | ⟨hfailed, hclose⟩
    · have hcall : c.write = (.done n, c.write.2) := Prod.ext hdone rfl
      rw [hcall]
      simp only [hkeep, if_true]
      have hset : (r.connections.set s.id c.write.2)[s.id]? = some c.write.2 :=
        List.getElem?_set_self hid
      rw [connections_await hawait, connections_putOff hput]
      simp only [List.foldlM_cons, List.foldlM_nil, Call.replay?, Call.after, hc, if_true,
        Option.bind_eq_bind, Option.bind_some, hset, List.set_set, Option.pure_def]
      rfl
    · have hcall : c.write = (.done n, c.write.2) := Prod.ext hdone rfl
      rw [hcall, connections_close hclose]
      simp only [hkeep, Bool.false_eq_true, if_false]
      exact hone
    · have hcall : c.write = (.blocked (n + 1), c.write.2) := Prod.ext hblocked rfl
      rw [hcall, connections_putOff hput]
      exact hone
    · have hcall : c.write = (.blocked 0, c.write.2) := Prod.ext hblocked rfl
      rw [hcall]
      exact hone
    · rw [connections_close hclose]
      rcases hfailed with hfailed | ⟨reason, hfailed⟩
      · have hcall : c.write = (.closedWhileWriting, c.write.2) := Prod.ext hfailed rfl
        rw [hcall]
        exact hone
      · have hcall : c.write = (.failed reason, c.write.2) := Prod.ext hfailed rfl
        rw [hcall]
        exact hone
  · rw [hhang]
    split
    case h_1 c hawaits _ =>
      rw [hnotRead hawaits]
      rfl
    case h_2 c hawaits _ =>
      rw [hnotWrite hawaits]
      rfl
    case h_3 => rfl

theorem calls_heed {n : Notice} {batch : List Notice} (hbatch : r.batch = n :: batch) (now : Nat) :
    r.calls (.heed now) = ({ r with batch } : EventLoop).noticeCalls n := by
  simp only [calls, hbatch, List.head?_cons, Option.map_some, Option.getD_some]
  rfl

theorem exists_notice_of_mem_calls {now : Nat} {call : Call} (h : call ∈ r.calls (.heed now)) :
    ∃ n ∈ r.batch, call ∈ r.noticeCalls n := by
  simp only [calls] at h
  cases hbatch : r.batch with
  | nil =>
    rw [hbatch] at h
    cases h
  | cons n batch =>
    rw [hbatch] at h
    exact ⟨n, List.mem_cons_self, h⟩

/-- A worker does nothing but to process a connection. -/
theorem exists_session_of_mem_calls {worker handle : Nat} {call : Call}
    (h : call ∈ r.calls (.process worker handle)) : ∃ session, call.kind = .process session := by
  simp only [calls] at h
  split at h
  case h_1 =>
    split at h
    case h_1 =>
      rw [List.mem_singleton.mp h]
      exact ⟨_, rfl⟩
    case h_2 => cases h
  case h_2 => cases h

/-- **Connections change by the calls on record.**  Replaying the calls of a step on what the
world outside has made of the connections leads to the connections after the step. -/
theorem replay_step {e : Event} (h : r.step e = some r') :
    (r.calls e).foldlM (Call.replay? r.service) (r.touched e) = some r'.connections := by
  have hsilent : r.calls e = [] → r.touched e = r.connections → Quiet r r' →
      (r.calls e).foldlM (Call.replay? r.service) (r.touched e) = some r'.connections := by
    intro hnone htouched hquiet
    rw [hnone, htouched, hquiet.connections_eq]
    rfl
  cases e with
  | arrive id deliveries =>
    cases h
    rfl
  | expect id acceptances =>
    cases h
    rfl
  | refuse ids =>
    cases h
    rfl
  | poll batch =>
    simp only [EventLoop.step, Option.ite_none_right_eq_some, Option.some.injEq] at h
    obtain ⟨-, rfl⟩ := h
    rfl
  | heed now =>
    simp only [EventLoop.step] at h
    split at h
    case h_1 => cases h
    case h_2 n batch hbatch =>
      rw [calls_heed hbatch]
      exact replay_heed (r := { r with batch }) h
  | accept now peer stream =>
    have haccept : r.accept now peer stream = some r' := h
    unfold EventLoop.accept at haccept
    rw [calls]
    split at haccept
    case isTrue hturned =>
      rw [if_pos hturned, ← Option.some.inj haccept]
      rfl
    case isFalse hturned =>
      obtain ⟨⟨deadline, deadlines⟩, -, haccept⟩ := Option.bind_eq_some_iff.mp haccept
      rw [if_neg hturned, ← Option.some.inj haccept]
      simp only [List.foldlM_cons, List.foldlM_nil, Call.replay?, touched, if_true]
      rfl
  | offer =>
    obtain ⟨⟨s, more⟩, hoffer, rfl⟩ := Option.map_eq_some_iff.mp h
    exact hsilent rfl rfl (quiet_offerFirst hoffer)
  | hear => exact hsilent rfl rfl (quiet_hearFirst h)
  | tick now => exact hsilent rfl rfl (quiet_tick h)
  | post => exact hsilent rfl rfl (quiet_poolStep (Or.inl rfl) h)
  | take worker => exact hsilent rfl rfl (quiet_poolStep (Or.inr ⟨worker, Or.inl rfl⟩) h)
  | test worker => exact hsilent rfl rfl (quiet_poolStep (Or.inr ⟨worker, Or.inr (Or.inl rfl)⟩) h)
  | pop worker => exact hsilent rfl rfl (quiet_poolStep (Or.inr ⟨worker, Or.inr (Or.inr rfl)⟩) h)
  | process worker handle =>
    obtain ⟨backend, t, c, hbackend, hphase, hc, rfl⟩ := process_cases h
    simp only [calls, hbackend, hphase, hc, List.foldlM_cons, List.foldlM_nil, Call.replay?,
      touched, Call.after, if_true]
    rfl
  | send worker => exact hsilent rfl rfl (quiet_send h)

/-! ## What is kept -/

theorem callsOn_append (id : Nat) (hs calls : List Call) :
    callsOn id (hs ++ calls) = callsOn id hs ++ callsOn id calls :=
  List.filter_append ..

/-- All calls so far have had their place, and every connection is ready for what is expected
of it. -/
structure Kept (v : Http.Service) (r : EventLoop) (hs : List Call) : Prop where
  service_eq : r.service = v
  untouched : ∀ id, r.connections.length ≤ id → callsOn id hs = []
  accounted : ∀ id c, r.connections[id]? = some c → Connection.Accounted v (callsOn id hs) c
  ready : ∀ id need c, r.Expects id need → r.connections[id]? = some c →
    Connection.Ready v (callsOn id hs) c need

theorem Kept.quiet (h : Kept v r hs) (hquiet : Quiet r r') : Kept v r' hs where
  service_eq := hquiet.service_eq.trans h.service_eq
  untouched := by
    rw [hquiet.connections_eq]
    exact h.untouched
  accounted := by
    rw [hquiet.connections_eq]
    exact h.accounted
  ready := by
    rw [hquiet.connections_eq]
    exact fun id need c he => h.ready id need c (hquiet.expects he)

/-- Calls on one connection, after which it is ready for what is expected of it then. -/
theorem Kept.of_calls (h : Kept v r hs) {id : Nat} {c' : Connection} {calls : List Call}
    (hid : id < r.connections.length) (hcalls : ∀ call ∈ calls, call.number = id)
    (hconnections : r'.connections = r.connections.set id c') (hservice : r'.service = r.service)
    (hother : ∀ {other need}, other ≠ id → r'.Expects other need → r.Expects other need)
    (haccounted : Connection.Accounted v (callsOn id hs ++ calls) c')
    (hready : ∀ need, r'.Expects id need → Connection.Ready v (callsOn id hs ++ calls) c' need) :
    Kept v r' (hs ++ calls) := by
  have hself : callsOn id (hs ++ calls) = callsOn id hs ++ calls := by
    rw [callsOn_append]
    congr 1
    exact List.filter_eq_self.mpr (by simpa using hcalls)
  have hothers : ∀ other, other ≠ id → callsOn other (hs ++ calls) = callsOn other hs := by
    intro other hne
    have hnone : callsOn other calls = [] := List.filter_eq_nil_iff.mpr fun call hcall => by
      simpa [hcalls call hcall] using hne.symm
    rw [callsOn_append, hnone, List.append_nil]
  have hlength : r'.connections.length = r.connections.length := by
    rw [hconnections, List.length_set]
  have hget : ∀ other c, r'.connections[other]? = some c →
      (other = id ∧ c = c') ∨ other ≠ id ∧ r.connections[other]? = some c := by
    intro other c hc
    rw [hconnections] at hc
    by_cases heq : other = id
    · subst heq
      rw [List.getElem?_set_self hid] at hc
      exact Or.inl ⟨rfl, (Option.some.inj hc).symm⟩
    · rw [List.getElem?_set_ne (Ne.symm heq)] at hc
      exact Or.inr ⟨heq, hc⟩
  refine ⟨hservice.trans h.service_eq, fun other hle => ?_, fun other c hc => ?_,
    fun other need c he hc => ?_⟩
  · rw [hlength] at hle
    rw [hothers other (by omega)]
    exact h.untouched other hle
  · rcases hget other c hc with ⟨rfl, rfl⟩ | ⟨hne, hc⟩
    · rwa [hself]
    · rw [hothers other hne]
      exact h.accounted other c hc
  · rcases hget other c hc with ⟨rfl, rfl⟩ | ⟨hne, hc⟩
    · rw [hself]
      exact hready need he
    · rw [hothers other hne]
      exact h.ready other need c (hother hne he) hc

/-! ## Steps that call connections -/

/-- What becomes known of a stream's other side changes nothing. -/
theorem Kept.updateStream (h : Kept v r hs) (id : Nat) {f : Stream → Stream}
    (hf : ∀ s, (f s).written = s.written) : Kept v (r.updateStream id f) hs := by
  unfold EventLoop.updateStream
  split
  case h_1 c hc =>
    obtain ⟨hid, -⟩ := List.getElem?_eq_some_iff.mp hc
    have hkept : Kept v (r.setConnection id { c with stream := f c.stream }) (hs ++ []) := by
      refine h.of_calls hid (List.forall_mem_nil _) rfl rfl (fun _ he => he) ?_ fun need he => ?_
      · rw [List.append_nil]
        exact (h.accounted id c hc).withStream (hf _)
      · rw [List.append_nil]
        exact (h.ready id need c he hc).withStream (hf _)
    rwa [List.append_nil] at hkept
  case h_2 => exact h

/-- A new connection is ready to be read. -/
theorem Kept.accept (h : Kept v r hs) (hr : r.Disciplined none) {peer : Net.SocketAddress}
    {stream : Stream} (hstep : r.accept now peer stream = some r') :
    Kept v r' (hs ++ r.calls (.accept now peer stream)) := by
  rcases accept_cases hstep with ⟨hturned, rfl⟩ | ⟨deadline, deadlines, hfull, hinsert, rfl⟩
  · have hnone : r'.calls (.accept now peer stream) = [] := by
      rw [calls, if_pos (by simpa using hturned)]
    rw [hnone, List.append_nil]
    exact h
  by_cases hwatched : r.connections.length ∈ r.unwatched
  · -- the socket is not watched, so the client is turned away
    have hturned : (r.isFull || decide (r.connections.length ∈ r.unwatched)) = true := by
      simp [hwatched]
    unfold EventLoop.accept at hstep
    rw [if_pos hturned] at hstep
    have hlength := congrArg (List.length ∘ EventLoop.connections) (Option.some.inj hstep)
    simp at hlength
  have hcalls : r.calls (.accept now peer stream)
      = [⟨r.connections.length, .create, .accepted r.connections.length peer stream
          r.config.buffers.readCapacity r.config.buffers.writeCapacity⟩] := by
    rw [calls, if_neg (by simp [hfull, hwatched])]
  have hfresh : callsOn r.connections.length (hs ++ r.calls (.accept now peer stream))
      = r.calls (.accept now peer stream) := by
    rw [callsOn_append, h.untouched _ (Nat.le_refl _), hcalls]
    simp [callsOn]
  have hothers : ∀ other, other ≠ r.connections.length →
      callsOn other (hs ++ r.calls (.accept now peer stream)) = callsOn other hs := by
    intro other hne
    have hnone : callsOn other (r.calls (.accept now peer stream)) = [] := by
      simp [hcalls, callsOn, hne.symm]
    rw [callsOn_append, hnone, List.append_nil]
  have hreading := Connection.reading_of_accepted v r.connections.length r.connections.length peer
    stream r.config.buffers.readCapacity r.config.buffers.writeCapacity
  rw [← hcalls] at hreading
  -- of other connections nothing new is expected, and the new one is to be read
  have hexpects : ∀ id need, Expects { r with
      slots := r.slots.insert (.opened r.connections.length deadline)
      deadlines
      connections := r.connections ++ [.accepted r.connections.length peer stream
        r.config.buffers.readCapacity r.config.buffers.writeCapacity]
      openCount := r.openCount + 1 } id need →
      r.Expects id need ∨ id = r.connections.length ∧ need = .read := by
    rintro id need (⟨key, s, readiness, hs', hid, hawaits, hneed⟩ | hdemand)
    · rcases (KeyTable.get?_insert_eq_some hr.sound).mp hs' with ⟨-, rfl⟩ | ⟨-, hs'⟩
      · cases hawaits
        exact Or.inr ⟨hid.symm, hneed.symm⟩
      · exact Or.inl (Or.inl ⟨key, s, readiness, hs', hid, hawaits, hneed⟩)
    · exact Or.inl (Or.inr hdemand)
  have hget : ∀ id (c c₀ : Connection), (r.connections ++ [c₀])[id]? = some c →
      id ≠ r.connections.length ∧ r.connections[id]? = some c ∨
        id = r.connections.length ∧ c = c₀ := by
    intro id c c₀ hc
    rcases Nat.lt_trichotomy id r.connections.length with hlt | rfl | hgt
    · rw [List.getElem?_append_left hlt] at hc
      exact Or.inl ⟨Nat.ne_of_lt hlt, hc⟩
    · rw [List.getElem?_concat_length] at hc
      exact Or.inr ⟨rfl, (Option.some.inj hc).symm⟩
    · rw [List.getElem?_eq_none (by simp; omega)] at hc
      cases hc
  refine ⟨h.service_eq, fun id hle => ?_, fun id c hc => ?_, fun id need c he hc => ?_⟩
  · rw [List.length_append, List.length_singleton] at hle
    rw [hothers id (by omega)]
    exact h.untouched id (by omega)
  · rcases hget id c _ hc with ⟨hne, hc⟩ | ⟨rfl, rfl⟩
    · rw [hothers id hne]
      exact h.accounted id c hc
    · rw [hfresh]
      exact hreading.accounted
  · rcases hexpects id need he with he | ⟨rfl, rfl⟩
    · have hlt := hr.lt_of_expects he
      rcases hget id c _ hc with ⟨hne, hc⟩ | ⟨rfl, -⟩
      · rw [hothers id hne]
        exact h.ready id need c he hc
      · exact absurd hlt (Nat.lt_irrefl _)
    · rcases hget _ c _ hc with ⟨hne, -⟩ | ⟨-, rfl⟩
      · exact absurd rfl hne
      · rw [hfresh]
        exact .read hreading

theorem Kept.receive (h : Kept v r hs) (hr : r.Disciplined none) {s : Slot}
    (hs' : r.slots.get? key = some s) (hawaits : s.awaits = some .read) {c : Connection}
    (hc : r.connections[s.id]? = some c) (hstep : r.receive now key s = some r') :
    Kept v r' (hs ++ [⟨s.id, .read, c⟩]) := by
  have hread : r.Expects s.id .read := Or.inl ⟨key, s, .read, hs', rfl, hawaits, rfl⟩
  have hquiet := quiet_receive hs' hawaits hc hstep
  have hexpects : ∀ {id need}, r'.Expects id need → r.Expects id need := hquiet.expects
  cases h.ready s.id .read c hread hc with
  | read hreading =>
    have hafter := hreading.read s.id
    refine h.of_calls (hr.known hs') (by simp) hquiet.connections_eq hquiet.service_eq
      (fun _ => hexpects) hafter.accounted fun need he => ?_
    rw [hr.expects_unique (hexpects he) hread]
    exact .read hafter

/-- Nothing is expected of a connection that was closed. -/
theorem not_expects_of_close (hr : r.Disciplined none) {s : Slot}
    (hs : r.slots.get? key = some s) {reason : ClosingReason} {c : Connection}
    (h : (r.setConnection s.id c).close key reason = some r') (hr' : r'.Disciplined none)
    (need : Need) : ¬r'.Expects s.id need := by
  intro he
  obtain ⟨k, s', hs', hid⟩ := hr'.slot_of_expects he
  have hslot : (r.setConnection s.id c).slots.get? key = some s := hs
  rcases close_cases h with ⟨hnone, -⟩ | ⟨slot, deadlines, -, -, rfl⟩
  · rw [hslot] at hnone
    cases hnone
  · obtain ⟨hne, hs'⟩ := KeyTable.get?_remove_eq_some.mp hs'
    exact hne (hr.distinct hs' hs hid)

/-- Writing to a slot that waits to be written, and resetting it when all was sent. -/
theorem Kept.transmit (h : Kept v r hs) (hr : r.Disciplined none) (hr' : r'.Disciplined none)
    {s : Slot} (hs' : r.slots.get? key = some s) (hawaits : s.awaits = some .write)
    {c : Connection} (hc : r.connections[s.id]? = some c)
    (hstep : r.transmit now key s = some r') :
    Kept v r' (hs ++ match c.write with
      | (.done _, c') => if c'.keepAlive then [⟨s.id, .write, c⟩, ⟨s.id, .reset, c'⟩]
        else [⟨s.id, .write, c⟩]
      | _ => [⟨s.id, .write, c⟩]) := by
  have hwrite : r.Expects s.id .write := Or.inl ⟨key, s, .write, hs', rfl, hawaits, rfl⟩
  have hknown := hr.known hs'
  obtain ⟨c₀, hc₀, hcases⟩ := transmit_cases hstep
  obtain rfl : c₀ = c := Option.some.inj (hc₀.symm.trans hc)
  cases h.ready s.id .write c₀ hwrite hc with
  | @write answer hstaged hleft =>
    have hafter := hstaged.write hleft s.id
    -- a connection that is closed only has to be accounted for
    have hclosed : ∀ reason, (r.setConnection s.id c₀.write.2).close key reason = some r' →
        Kept v r' (hs ++ [⟨s.id, .write, c₀⟩]) := by
      intro reason hclose
      have hquiet := quiet_close hclose
      exact h.of_calls hknown (by simp) hquiet.connections_eq hquiet.service_eq
        (fun _ he => hquiet.expects he) hafter.accounted
        fun need he => absurd he (not_expects_of_close hr hs' hclose hr' need)
    -- a connection that is still to be written goes on being expected to be
    have hblocked : ∀ n, c₀.write.1 = .blocked n →
        Quiet (r.setConnection s.id c₀.write.2) r' →
        Kept v r' (hs ++ [⟨s.id, .write, c₀⟩]) := by
      intro n houtcome hquiet
      rw [houtcome] at hafter
      cases hafter with
      | blocked hstaged' hleft' =>
        refine h.of_calls hknown (by simp) hquiet.connections_eq hquiet.service_eq
          (fun _ he => hquiet.expects he) hstaged'.accounted fun need he => ?_
        rw [hr.expects_unique (hquiet.expects he) hwrite]
        exact .write hstaged' hleft'
    cases hresult : c₀.write with
    | mk outcome c' =>
      rw [hresult] at hafter hcases hclosed hblocked
      rcases hcases with ⟨n, r₁, rfl, hkeep, hput, hawait⟩ | ⟨n, rfl, hkeep, hclose⟩ |
        ⟨n, rfl, hput⟩ | ⟨rfl, rfl⟩ | ⟨rfl | ⟨reason, rfl⟩, hclose⟩
      · cases hafter with
        | @done _ answer' hstaged' hnothing =>
          have hreading := hstaged'.reset hnothing hkeep s.id
          rw [List.append_assoc] at hreading
          have hquiet := quiet_putOff hput
          simp only at hkeep
          simp only [hkeep, if_true]
          refine h.of_calls hknown (by simp)
            ((connections_await hawait).trans hquiet.connections_eq)
            ((service_await hawait).trans hquiet.service_eq) (fun {other need} hne he => ?_)
            hreading.accounted fun need he => ?_
          · rcases expects_of_await hawait he with he | ⟨s₁, hs₁, rfl, -⟩
            · exact hquiet.expects he
            · have hslots : r₁.slots = r.slots := by
                rcases putOff_cases hput with ⟨-, rfl⟩ | ⟨_, _, _, -, -, rfl⟩ <;> rfl
              rw [hslots, hs'] at hs₁
              cases hs₁
              exact absurd rfl hne
          · -- the slot is still there, so it waits to be read
            have hslots : r₁.slots = r.slots := by
              rcases putOff_cases hput with ⟨-, rfl⟩ | ⟨_, _, _, -, -, rfl⟩ <;> rfl
            have hexpected : r'.Expects s.id .read := by
              obtain ⟨k, s₂, hs₂, hid⟩ := hr'.slot_of_expects he
              rcases await_cases hawait with ⟨hnone, -⟩ | ⟨slot, hslot, ⟨-, rfl⟩ | ⟨-, hclose⟩⟩
              · rw [hslots, hs'] at hnone
                cases hnone
              · rw [hslots, hs'] at hslot
                cases hslot
                refine Or.inl ⟨key, s.await .read, .read, ?_, rfl, rfl, rfl⟩
                rw [get?_updateSlot, if_pos rfl, hslots, hs']
                rfl
              · rcases close_cases hclose with ⟨hnone, -⟩ | ⟨slot', deadlines, -, -, rfl⟩
                · rw [get?_updateSlot, if_pos rfl, hslots, hs'] at hnone
                  cases hnone
                · obtain ⟨hne, hs₂⟩ := KeyTable.get?_remove_eq_some.mp hs₂
                  rw [get?_updateSlot, if_neg hne, hslots] at hs₂
                  exact absurd (hr.distinct hs₂ hs' hid) hne
            rw [hr'.expects_unique he hexpected]
            exact .read hreading
      · simp only at hkeep
        simp only [hkeep, Bool.false_eq_true, if_false]
        exact hclosed _ hclose
      · exact hblocked _ rfl (quiet_putOff hput)
      · exact hblocked _ rfl (.refl _)
      · exact hclosed _ hclose
      · exact hclosed _ hclose

theorem Kept.heed (h : Kept v r hs) (hr : r.Disciplined none) (hr' : r'.Disciplined none)
    {n : Notice} (hstep : r.heed now n = some r') : Kept v r' (hs ++ r.noticeCalls n) := by
  rcases heed_cases hstep with ⟨hnone, rfl⟩ | ⟨s, hs', hcases⟩
  · rw [noticeCalls, hnone, List.append_nil]
    exact h
  simp only [noticeCalls, hs']
  rcases hcases with ⟨hhang, -, rfl⟩ | ⟨hhang, -, hclose⟩ | ⟨hhang, hawaits, hready, hread⟩ |
    ⟨hhang, hawaits, hready, hwrite⟩ | ⟨hhang, hnotRead, hnotWrite, rfl⟩
  · simp only [hhang, List.append_nil]
    exact h.quiet (quiet_updateSlot _ _ fun s => ⟨rfl, Or.inl rfl⟩)
  · simp only [hhang, List.append_nil]
    exact h.quiet (quiet_close hclose)
  · obtain ⟨c, hc, -⟩ := receive_cases hread
    simp only [hhang, hawaits, hc, hready, if_true]
    exact h.receive hr hs' hawaits hc hread
  · obtain ⟨c, hc, -⟩ := transmit_cases hwrite
    simp only [hhang, hawaits, hc, hready, if_true]
    exact h.transmit hr hr' hs' hawaits hc hwrite
  · have hnothing : ∀ l : List Call, l = [] → Kept v r' (hs ++ l) := by
      rintro l rfl
      rwa [List.append_nil]
    refine hnothing _ ?_
    rw [hhang]
    split
    case h_1 c hawaits _ =>
      rw [hnotRead hawaits]
      rfl
    case h_2 c hawaits _ =>
      rw [hnotWrite hawaits]
      rfl
    case h_3 => rfl

/-- A worker processes a connection that needs to be read, and then knows what it needs
next. -/
theorem Kept.process (h : Kept v r hs)
    (hunique : ∀ {id need need'}, r'.Expects id need → r'.Expects id need' → need = need')
    {worker handle : Nat} (hstep : r.process worker handle = some r') :
    Kept v r' (hs ++ r.calls (.process worker handle)) := by
  obtain ⟨backend, t, c, hbackend, hphase, hc, heq⟩ := process_cases hstep
  have hcalls : r.calls (.process worker handle)
      = [⟨t.id, .process ⟨r.credentials, backend, r.storage⟩, c⟩] := by
    simp only [calls, hbackend, hphase, hc]
  rw [hcalls]
  cases h.ready t.id .read c (expects_of_handling hphase) hc with
  | read hreading =>
    have hafter := hreading.process t.id ⟨r.credentials, backend, r.storage⟩
    rw [← h.service_eq] at hafter
    rw [← h.service_eq]
    have hkept : Kept r.service r hs := by
      rw [h.service_eq]
      exact h
    -- the worker now expects what it has found out, and nothing else is new
    have hexpects : ∀ {id need}, r'.Expects id need → r.Expects id need ∨ id = t.id := by
      rw [heq]
      rintro id need (hwait | ⟨t', hid, ht'⟩)
      · exact Or.inl (Or.inl hwait)
      · rcases mem_demands_move (r := r) ht' with ht' | ht'
        · exact Or.inl (Or.inr ⟨t', hid, ht'⟩)
        · cases ht'
          exact Or.inr hid.symm
    have hnext : r'.Expects t.id (c.process r.service ⟨r.credentials, backend, r.storage⟩).1 := by
      refine Or.inr ⟨t, rfl, ?_⟩
      rw [heq]
      simp only [demands, WorkerPool.move, List.mem_append]
      exact Or.inr (Or.inr (Or.inl (List.mem_filterMap.mpr
        ⟨_, List.mem_set (List.getElem?_eq_some_iff.mp hphase).1 _, rfl⟩)))
    refine hkept.of_calls (List.getElem?_eq_some_iff.mp hc).1 (by simp) (by rw [heq]; rfl)
      (by rw [heq]; rfl) (fun hne he => (hexpects he).resolve_right hne) hafter.accounted
      fun need he => ?_
    rw [hunique he hnext]
    exact hafter

/-! ## Runs -/

/-- A step keeps the calls in order. -/
theorem Kept.step (h : Kept v r hs) (hr : r.Disciplined none) {e : Event}
    (hstep : r.step e = some r') : Kept v r' (hs ++ r.calls e) := by
  have hr' := disciplined_step hr hstep
  have hsilent : r.calls e = [] → Kept v r' hs → Kept v r' (hs ++ r.calls e) := by
    intro hnone hkept
    rwa [hnone, List.append_nil]
  cases e with
  | arrive id deliveries =>
    cases hstep
    exact hsilent rfl (h.updateStream id fun _ => rfl)
  | expect id acceptances =>
    cases hstep
    exact hsilent rfl (h.updateStream id fun _ => rfl)
  | refuse ids =>
    cases hstep
    exact hsilent rfl (h.quiet (.of_demands rfl rfl rfl fun _ hm => hm))
  | poll batch =>
    simp only [EventLoop.step, Option.ite_none_right_eq_some, Option.some.injEq] at hstep
    obtain ⟨-, rfl⟩ := hstep
    exact hsilent rfl (h.quiet (.of_demands rfl rfl rfl fun _ hm => hm))
  | heed now =>
    simp only [EventLoop.step] at hstep
    split at hstep
    case h_1 => cases hstep
    case h_2 n batch hbatch =>
      have hrest : Kept v { r with batch } hs :=
        h.quiet (.of_demands rfl rfl rfl fun _ hm => hm)
      rw [calls_heed hbatch]
      exact hrest.heed (hr.congr rfl (fun _ => rfl) (Nat.le_refl _)) hr' hstep
  | accept now peer stream => exact h.accept hr hstep
  | offer =>
    obtain ⟨⟨s, more⟩, hoffer, rfl⟩ := Option.map_eq_some_iff.mp hstep
    exact hsilent rfl (h.quiet (quiet_offerFirst hoffer))
  | hear => exact hsilent rfl (h.quiet (quiet_hearFirst hstep))
  | tick now => exact hsilent rfl (h.quiet (quiet_tick hstep))
  | post => exact hsilent rfl (h.quiet (quiet_poolStep (Or.inl rfl) hstep))
  | take worker =>
    exact hsilent rfl (h.quiet (quiet_poolStep (Or.inr ⟨worker, Or.inl rfl⟩) hstep))
  | test worker =>
    exact hsilent rfl (h.quiet (quiet_poolStep (Or.inr ⟨worker, Or.inr (Or.inl rfl)⟩) hstep))
  | pop worker =>
    exact hsilent rfl (h.quiet (quiet_poolStep (Or.inr ⟨worker, Or.inr (Or.inr rfl)⟩) hstep))
  | process worker handle => exact h.process hr'.expects_unique hstep
  | send worker => exact hsilent rfl (h.quiet (quiet_send hstep))

theorem Kept.run (h : Kept v r hs) (hr : r.Disciplined none) {events : List Event}
    (hrun : r.run events = some r') : Kept v r' (hs ++ r.history events) := by
  induction events generalizing r hs with
  | nil =>
    cases hrun
    rwa [history, List.append_nil]
  | cons e events ih =>
    obtain ⟨r₁, hstep, hrun⟩ := Option.bind_eq_some_iff.mp hrun
    have hkept := ih (h.step hr hstep) (disciplined_step hr hstep) hrun
    rw [history, hstep]
    rwa [List.append_assoc] at hkept

/-! ## After the shutdown -/

/-- Every slot is closed, and what workers still have is on its way once. -/
structure Stopped (r : EventLoop) : Prop where
  closed : ∀ key, r.slots.get? key = none
  lone : r.Lone

theorem Stopped.expects_unique (h : Stopped r) {id : Nat} {need need' : Need}
    (he : r.Expects id need) (he' : r.Expects id need') : need = need' := by
  rcases he with ⟨key, s, -, hs, -⟩ | ⟨t, hid, ht⟩
  · rw [h.closed key] at hs
    cases hs
  rcases he' with ⟨key, s, -, hs, -⟩ | ⟨t', hid', ht'⟩
  · rw [h.closed key] at hs
    cases hs
  exact h.lone.demand_unique ht ht' (hid.trans hid'.symm)

/-- Closing slots one after another leaves those that were not among them. -/
theorem close_all {keys : List Nat} {reason : ClosingReason}
    (h : keys.foldlM (fun r key => r.close key reason) r = some r') :
    Quiet r r' ∧ r'.transit = r.transit ∧ r'.backlog = r.backlog ∧
      ∀ key s, r'.slots.get? key = some s → key ∉ keys ∧ r.slots.get? key = some s := by
  induction keys generalizing r with
  | nil =>
    cases h
    exact ⟨.refl _, rfl, rfl, fun key s hs => ⟨List.not_mem_nil, hs⟩⟩
  | cons first keys ih =>
    obtain ⟨r₁, hclose, h⟩ := Option.bind_eq_some_iff.mp h
    obtain ⟨hquiet, htransit, hbacklog, hleft⟩ := ih h
    have hfirst : r₁.transit = r.transit ∧ r₁.backlog = r.backlog ∧
        ∀ key s, r₁.slots.get? key = some s → key ≠ first ∧ r.slots.get? key = some s := by
      rcases close_cases hclose with ⟨hnone, rfl⟩ | ⟨slot, deadlines, -, -, rfl⟩
      · refine ⟨rfl, rfl, fun key s hs => ⟨fun heq => ?_, hs⟩⟩
        rw [heq, hnone] at hs
        cases hs
      · exact ⟨rfl, rfl, fun key s hs => KeyTable.get?_remove_eq_some.mp hs⟩
    refine ⟨(quiet_close hclose).trans hquiet, htransit.trans hfirst.1,
      hbacklog.trans hfirst.2.1, fun key s hs => ?_⟩
    obtain ⟨hnew, hs⟩ := hleft key s hs
    obtain ⟨hne, hs⟩ := hfirst.2.2 key s hs
    exact ⟨fun hmem => (List.mem_cons.mp hmem).elim hne hnew, hs⟩

/-- A shutdown closes all slots and calls no connection. -/
theorem stopped_of_shutdown (hr : r.Disciplined none) (h : r.shutdown = some r') :
    Quiet r r' ∧ Stopped r' := by
  obtain ⟨r₁, hclose, h⟩ := Option.bind_eq_some_iff.mp h
  obtain rfl := Option.some.inj h
  obtain ⟨hquiet, htransit, hbacklog, hleft⟩ := close_all hclose
  refine ⟨hquiet.trans (.of_demands rfl rfl rfl fun m hm => ?_), fun key => ?_, ?_⟩
  · rw [demands, List.mem_append]
    exact Or.inr hm
  · show r₁.slots.get? key = none
    rw [Option.eq_none_iff_forall_ne_some]
    intro s hs
    obtain ⟨hnew, hs⟩ := hleft key s hs
    refine hnew (List.mem_filter.mpr ⟨List.mem_range.mpr (KeyTable.lt_of_get? hs), ?_⟩)
    rw [hs]
    rfl
  · have hlone := hr.lone
    rw [Lone, ← htransit] at hlone
    exact hlone.sublist ((List.sublist_append_right _ _).map Ticket.id)

/-- Steps of workers move what is on its way and open no slot. -/
theorem Stopped.step (h : Stopped r) {e : Event} (he : e.isOfWorker = true)
    (hstep : r.step e = some r') : Stopped r' := by
  have hmoved : r'.slots = r.slots → (∀ t, r'.load t = r.load t) → Stopped r' := by
    intro hslots hload
    refine ⟨hslots ▸ h.closed, ?_⟩
    have hperm : r'.transit.Perm r.transit := List.perm_iff_count.mpr hload
    exact (hperm.map Ticket.id).nodup_iff.mpr h.lone
  have hpool : ∀ {e}, (e = .post ∨ ∃ worker, e = .take worker ∨ e = .test worker ∨
      e = .pop worker) → r.poolStep e = some r' → Stopped r' := by
    intro e he hstep
    obtain ⟨pool, hpool, rfl⟩ := Option.map_eq_some_iff.mp hstep
    exact hmoved rfl (load_poolStep he hpool)
  cases e with
  | post => exact hpool (Or.inl rfl) hstep
  | take worker => exact hpool (Or.inr ⟨worker, Or.inl rfl⟩) hstep
  | test worker => exact hpool (Or.inr ⟨worker, Or.inr (Or.inl rfl)⟩) hstep
  | pop worker => exact hpool (Or.inr ⟨worker, Or.inr (Or.inr rfl)⟩) hstep
  | process worker handle =>
    have hload := load_process hstep
    obtain ⟨backend, t, c, -, -, -, rfl⟩ := process_cases hstep
    exact hmoved rfl hload
  | send worker =>
    have hload := load_send hstep
    obtain ⟨t, next, -, rfl⟩ := send_cases hstep
    exact hmoved rfl hload
  | arrive | expect | refuse | poll | heed | accept | offer | hear | tick => cases he

/-- A step of a worker keeps the calls in order as well when there are no slots any more. -/
theorem Kept.step_of_stopped (h : Kept v r hs) (hr : Stopped r) {e : Event}
    (he : e.isOfWorker = true) (hstep : r.step e = some r') :
    Kept v r' (hs ++ r.calls e) := by
  have hsilent : r.calls e = [] → Quiet r r' → Kept v r' (hs ++ r.calls e) := by
    intro hnone hquiet
    rw [hnone, List.append_nil]
    exact h.quiet hquiet
  cases e with
  | post => exact hsilent rfl (quiet_poolStep (Or.inl rfl) hstep)
  | take worker => exact hsilent rfl (quiet_poolStep (Or.inr ⟨worker, Or.inl rfl⟩) hstep)
  | test worker => exact hsilent rfl (quiet_poolStep (Or.inr ⟨worker, Or.inr (Or.inl rfl)⟩) hstep)
  | pop worker => exact hsilent rfl (quiet_poolStep (Or.inr ⟨worker, Or.inr (Or.inr rfl)⟩) hstep)
  | process worker handle => exact h.process (hr.step he hstep).expects_unique hstep
  | send worker => exact hsilent rfl (quiet_send hstep)
  | arrive | expect | refuse | poll | heed | accept | offer | hear | tick => cases he

theorem Kept.run_of_stopped (h : Kept v r hs) (hr : Stopped r) {events : List Event}
    (he : events.all Event.isOfWorker = true) (hrun : r.run events = some r') :
    Kept v r' (hs ++ r.history events) := by
  induction events generalizing r hs with
  | nil =>
    cases hrun
    rwa [history, List.append_nil]
  | cons e events ih =>
    rw [List.all_cons, Bool.and_eq_true] at he
    obtain ⟨r₁, hstep, hrun⟩ := Option.bind_eq_some_iff.mp hrun
    have hkept := ih (h.step_of_stopped hr he.1 hstep) (hr.step he.1 hstep) he.2 hrun
    rw [history, hstep]
    rwa [List.append_assoc] at hkept

theorem kept_start {config : Config} {service : Http.Service} {credentials : Store.Credentials}
    {storage : Store.Storage} {handles : List Store.Backend}
    (h : start config service credentials storage handles = .ok r) : Kept service r [] := by
  obtain ⟨pool, -, rfl⟩ := start_cases h
  refine ⟨rfl, fun _ _ => rfl, fun id c hc => ?_, fun id need c _ hc => ?_⟩ <;> cases hc

/-- The calls are in order all the life of a server. -/
theorem kept_of_life {r₀ : EventLoop} (h : Kept v r₀ []) (hr : r₀.Disciplined none)
    (hlife : Life r₀ hs r) : Kept v r hs := by
  cases hlife with
  | running hrun => exact h.run hr hrun
  | @stopped r r₁ _ events rest hrun hdown hworkers hrest =>
    have hreach : r.Disciplined none :=
      Reachable.induction hr (fun _ _ _ hs hstep => disciplined_step hs hstep) ⟨events, hrun⟩
    obtain ⟨hquiet, hstopped⟩ := stopped_of_shutdown hreach hdown
    exact ((h.run hr hrun).quiet hquiet).run_of_stopped hstopped hworkers hrest

/-- **One response for each request, in order, to the client that made it.**  In the whole
life of a server every call on a connection has its place behind the earlier calls on it
(`Call.Proper`).  What the client of a connection has accepted is the beginning of the
responses to its own requests, one after another, and only the last of these may close the
connection. -/
theorem calls_in_order {r₀ : EventLoop} {config : Config} {service : Http.Service}
    {credentials : Store.Credentials} {storage : Store.Storage} {handles : List Store.Backend}
    (hstart : start config service credentials storage handles = .ok r₀)
    (hlife : Life r₀ hs r) :
    (∀ id earlier call later, callsOn id hs = earlier ++ call :: later →
      call.Proper service earlier) ∧
    ∀ id c, r.connections[id]? = some c → ∃ first rest,
      callsOn id hs = first :: rest ∧ first.kind = .create ∧
      c.stream.written = first.before.stream.written ++ (callsOn id hs).flatMap Call.sent ∧
      (callsOn id hs).flatMap Call.sent
        <+: (Call.answers service (callsOn id hs)).flatMap Http.Response.encode ∧
      ∀ answer ∈ (Call.answers service (callsOn id hs)).dropLast, answer.keepAlive = true := by
  have hkept := kept_of_life (kept_start hstart) (disciplined_start hstart) hlife
  refine ⟨fun id earlier call later heq => ?_, fun id c hc => ?_⟩
  · rcases Nat.lt_or_ge id r.connections.length with hlt | hge
    · exact (hkept.accounted id _ (List.getElem?_eq_getElem hlt)).orderly earlier call later heq
    · rw [hkept.untouched id hge] at heq
      cases earlier <;> cases heq
  · have haccounted := hkept.accounted id c hc
    obtain ⟨first, rest, hcalls, hkind, hwritten⟩ := haccounted.created
    exact ⟨first, rest, hcalls, hkind, hwritten, haccounted.sent_le, haccounted.keepAlive⟩

/-- A service without files. -/
def fileless : Http.Service :=
  ⟨⟨"./root", "/judge.html"⟩, ⟨fun _ => .error .notFound, fun _ => .error .notFound⟩,
    fun _ => none⟩

/-- The first client when it has asked for a page and to stay. -/
def askingClient : Connection :=
  { firstClient [] with buffer := { (firstClient []).buffer with
    data := Utf8.encode "GET / HTTP/1.1\r\nConnection: keep-alive\r\n\r\n" } }

/-- The same client when there is an answer. -/
def answeredClient : Connection := (askingClient.process fileless ⟨{}, .memory, {}⟩).2.1

/-- All that is done for it: it is accepted and read, a worker finds an answer, and the answer is
sent. -/
def exchange : List Event :=
  [.accept 0 ⟨.v4 [127, 0, 0, 1], 4000, 0⟩ { arriving := [.data askingClient.buffer.data] },
    .poll [{ key := 0, source := 0, readable := true }], .heed 1, .post, .take 0, .test 0, .pop 0,
    .process 0 0, .send 0, .hear, .poll [{ key := 0, source := 0, writable := true }], .heed 2]

/-- The calls on it. -/
def exchangeCalls : List Call :=
  [⟨0, .create, firstClient [.data askingClient.buffer.data]⟩,
    ⟨0, .read, firstClient [.data askingClient.buffer.data]⟩,
    ⟨0, .process ⟨{}, .memory, {}⟩, askingClient⟩, ⟨0, .write, answeredClient⟩,
    ⟨0, .reset, answeredClient.write.2⟩]

/-- The first client is read, processed, written and reset, each in its place, and has accepted the
whole of one answer. -/
theorem calls_in_order_of_exchange :
    ∃ r, Life { bare with service := fileless } exchangeCalls r ∧
      (∀ earlier call later, exchangeCalls = earlier ++ call :: later →
        call.Proper fileless earlier) ∧
      ∃ c answer, r.connections[0]? = some c ∧ Call.answers fileless exchangeCalls = [answer] ∧
        c.stream.written = answer.encode := by
  have hstart : start {} fileless {} {} [.memory] = .ok { bare with service := fileless } := rfl
  have hfirst : (({ bare with service := fileless } : EventLoop).run exchange).map
      (fun r => r.connections[0]?) = some (some answeredClient.write.2.reset) := by decide +kernel
  have hhistory : ({ bare with service := fileless } : EventLoop).history exchange
      = exchangeCalls := by decide +kernel
  obtain ⟨r, hrun, hc⟩ := Option.map_eq_some_iff.mp hfirst
  have hlife := Life.running hrun
  rw [hhistory] at hlife
  obtain ⟨horder, haccounted⟩ := calls_in_order hstart hlife
  -- the answer was sent before the connection was reset
  obtain ⟨-, answer, hanswer, -, hsent⟩ := horder 0 (exchangeCalls.take 4) _ [] rfl
  obtain ⟨first, rest, hcalls, -, hwritten, -, -⟩ := haccounted 0 _ hc
  cases hcalls
  exact ⟨r, hlife, horder 0, _, answer, hc, hanswer, hwritten.trans hsent⟩

end EventLoop
end Server
end SiteServer
