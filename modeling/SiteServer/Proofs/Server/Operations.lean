import SiteServer.Proofs.Concurrency.Jobs
import SiteServer.Server.Run

/-!
# What the operations of the loop come to

Each operation of the event loop, read backwards: if it has led from `r` to `r'`, these are
the ways it can have done so, each with the conditions under which it is taken.  Whatever
is kept by every step of a server is shown from these, and not from the operations
themselves.

* `start_cases`: what a server is when it has started.
* `slot?_eq_some`: what it means that a connection still has its slot.
* `close_cases`, `putOff_cases`, `await_cases`, `handOver_cases`: the parts that the
  operations share.
* `accept_cases`, `receive_cases`, `transmit_cases`, `heed_cases`, `offerFirst_cases`,
  `hearFirst_cases`, `endOverdue_cases`, `tick_induction`: the operations of the loop's thread.
* `process_cases`, `send_cases`: those of a worker.

The way of a job into the hands of a worker is that of any job in a pool (`WorkerPool`).
-/

namespace SiteServer

namespace Server
namespace EventLoop

variable {r r' : EventLoop} {key now : Nat}

/-! ## Starting -/

/-- A server starts if its pool can be made, and has no connections then. -/
theorem start_cases {config : Config} {service : Http.Service} {credentials : Store.Credentials}
    {storage : Store.Storage} {handles : List Store.Backend}
    (h : start config service credentials storage handles = .ok r) :
    ∃ pool, WorkerPool.make config.pool.workers config.pool.maxRequests = .ok pool ∧
      r = { service, config, pool, credentials, storage, handles } := by
  unfold start at h
  split at h
  case h_1 => cases h
  case h_2 pool hpool => exact ⟨pool, hpool, (Except.ok.inj h).symm⟩

/-! ## Slots -/

/-- A connection has its slot as long as the slot has the number of the connection. -/
theorem slot?_eq_some {t : Ticket} {s : Slot} :
    r.slot? t = some s ↔ r.slots.get? t.key = some s ∧ s.id = t.id := by
  simp [slot?, Option.filter_eq_some_iff]

theorem get?_updateSlot (r : EventLoop) (key : Nat) (f : Slot → Slot) (k : Nat) :
    (r.updateSlot key f).slots.get? k
      = if k = key then (r.slots.get? key).map f else r.slots.get? k :=
  KeyTable.get?_modify key k f

/-! ## Shared parts -/

/-- Closing gives up the slot and its deadline, if there is something in the slot. -/
theorem close_cases {reason : ClosingReason} (h : r.close key reason = some r') :
    (r.slots.get? key = none ∧ r' = r) ∨
      ∃ slot deadlines, r.slots.get? key = some slot ∧
        r.deadlinesWithout slot = some deadlines ∧
        r' = { r with
          slots := r.slots.remove key
          deadlines
          openCount := r.openCount - 1
          closed := (slot.id, reason) :: r.closed } := by
  unfold close at h
  split at h
  case h_1 hnone => exact Or.inl ⟨hnone, (Option.some.inj h).symm⟩
  case h_2 slot hslot =>
    obtain ⟨deadlines, hdeadlines, h⟩ := Option.map_eq_some_iff.mp h
    exact Or.inr ⟨slot, deadlines, hslot, hdeadlines, h.symm⟩

/-- Putting off moves a deadline at most. -/
theorem putOff_cases (h : r.putOff now key = some r') :
    ((r.slots.get? key).bind (·.deadline) = none ∧ r' = r) ∨
      ∃ id found deadlines, (r.slots.get? key).bind (·.deadline) = some id ∧
        r.deadlines.reschedule id (now + r.window) = some (found, deadlines) ∧
        r' = { r with deadlines } := by
  unfold putOff at h
  split at h
  case h_1 hnone => exact Or.inl ⟨hnone, (Option.some.inj h).symm⟩
  case h_2 id hid =>
    obtain ⟨⟨found, deadlines⟩, hmove, h⟩ := Option.map_eq_some_iff.mp h
    exact Or.inr ⟨id, found, deadlines, hid, hmove, h.symm⟩

/-- Waiting for a socket closes the connection if the machine will not watch it. -/
theorem await_cases {readiness : Readiness} (h : r.await key readiness = some r') :
    (r.slots.get? key = none ∧ r' = r) ∨
      ∃ slot, r.slots.get? key = some slot ∧
        ((slot.id ∉ r.unwatched ∧ r' = r.updateSlot key (·.await readiness)) ∨
          (slot.id ∈ r.unwatched ∧
            (r.updateSlot key (·.await readiness)).close key .rearmFailed = some r')) := by
  unfold await at h
  split at h
  case h_1 hnone => exact Or.inl ⟨hnone, (Option.some.inj h).symm⟩
  case h_2 slot hslot =>
    refine Or.inr ⟨slot, hslot, ?_⟩
    simp only at h
    split at h
    case isTrue hmem => exact Or.inr ⟨hmem, h⟩
    case isFalse hmem => exact Or.inl ⟨hmem, (Option.some.inj h).symm⟩

/-- A connection that is handed over goes into the queue, or into the backlog if the queue
is full. -/
theorem handOver_cases {slot : Slot} (hslot : r.slots.get? key = some slot) :
    (∃ pool, r.pool.offer { ticket := ⟨key, slot.id⟩ } = .ok pool ∧
        r.handOver key = { r.updateSlot key Slot.depart with pool }) ∨
      (r.pool.offer { ticket := ⟨key, slot.id⟩ } = .error { ticket := ⟨key, slot.id⟩ } ∧
        r.handOver key
          = { r.updateSlot key Slot.depart with backlog := r.backlog ++ [⟨key, slot.id⟩] }) := by
  unfold handOver
  simp only [hslot]
  split
  case h_1 pool hoffer => exact Or.inl ⟨pool, hoffer, rfl⟩
  case h_2 job hoffer =>
    obtain ⟨-, rfl⟩ := WorkerPool.offer_eq_error hoffer
    exact Or.inr ⟨hoffer, rfl⟩

/-! ## The loop's thread -/

/-- A client is turned away, or has the next slot and the next number. -/
theorem accept_cases {peer : Net.SocketAddress} {stream : Stream}
    (h : r.accept now peer stream = some r') :
    ((r.isFull ∨ r.connections.length ∈ r.unwatched) ∧ r' = r) ∨
      ∃ deadline deadlines,
        r.isFull = false ∧
        r.deadlines.insert (now + r.window) ⟨r.slots.nextKey, r.connections.length⟩
          = some (deadline, deadlines) ∧
        r' = { r with
          slots := r.slots.insert (.opened r.connections.length deadline)
          deadlines
          connections := r.connections ++ [.accepted r.connections.length peer stream
            r.config.buffers.readCapacity r.config.buffers.writeCapacity]
          openCount := r.openCount + 1 } := by
  unfold accept at h
  split at h
  case isTrue hfull =>
    rw [Bool.or_eq_true, decide_eq_true_eq] at hfull
    exact Or.inl ⟨hfull, (Option.some.inj h).symm⟩
  case isFalse hfull =>
    obtain ⟨⟨deadline, deadlines⟩, hinsert, h⟩ := Option.bind_eq_some_iff.mp h
    refine Or.inr ⟨deadline, deadlines, ?_, hinsert, (Option.some.inj h).symm⟩
    rw [Bool.or_eq_true, not_or] at hfull
    simpa using hfull.1

/-- What was read decides whether the connection waits on, is handed over or is closed. -/
theorem receive_cases {slot : Slot} (h : r.receive now key slot = some r') :
    ∃ c, r.connections[slot.id]? = some c ∧
      ((c.read.1 = .ok (.data 0) ∧ r' = r.setConnection slot.id c.read.2) ∨
        (∃ n r₁, c.read.1 = .ok (.data (n + 1)) ∧
          (r.setConnection slot.id c.read.2).putOff now key = some r₁ ∧ r' = r₁.handOver key) ∨
        (c.read.1 = .ok .closed ∧
          (r.setConnection slot.id c.read.2).close key .peerClosed = some r') ∨
        (c.read.1 = .ok .full ∧
          (r.setConnection slot.id c.read.2).close key .bufferFull = some r') ∨
        (∃ f, c.read.1 = .error f ∧
          (r.setConnection slot.id c.read.2).close key .readFailed = some r')) := by
  unfold receive at h
  obtain ⟨c, hc, h⟩ := Option.bind_eq_some_iff.mp h
  refine ⟨c, hc, ?_⟩
  simp only at h
  split at h
  case h_1 hread => exact Or.inl ⟨hread, (Option.some.inj h).symm⟩
  case h_2 n hn hread =>
    obtain ⟨r₁, hput, h⟩ := Option.map_eq_some_iff.mp h
    obtain ⟨m, rfl⟩ := Nat.exists_eq_succ_of_ne_zero hn
    exact Or.inr (Or.inl ⟨m, r₁, hread, hput, h.symm⟩)
  case h_3 hread => exact Or.inr (Or.inr (Or.inl ⟨hread, h⟩))
  case h_4 hread => exact Or.inr (Or.inr (Or.inr (Or.inl ⟨hread, h⟩)))
  case h_5 f hread => exact Or.inr (Or.inr (Or.inr (Or.inr ⟨f, hread, h⟩)))

/-- What was written decides whether the connection starts anew, waits on or is closed. -/
theorem transmit_cases {slot : Slot} (h : r.transmit now key slot = some r') :
    ∃ c, r.connections[slot.id]? = some c ∧
      ((∃ n r₁, c.write.1 = .done n ∧ c.write.2.keepAlive = true ∧
          (r.setConnection slot.id c.write.2.reset).putOff now key = some r₁ ∧
          r₁.await key .read = some r') ∨
        (∃ n, c.write.1 = .done n ∧ c.write.2.keepAlive = false ∧
          (r.setConnection slot.id c.write.2).close key .completed = some r') ∨
        (∃ n, c.write.1 = .blocked (n + 1) ∧
          (r.setConnection slot.id c.write.2).putOff now key = some r') ∨
        (c.write.1 = .blocked 0 ∧ r' = r.setConnection slot.id c.write.2) ∨
        ((c.write.1 = .closedWhileWriting ∨ ∃ reason, c.write.1 = .failed reason) ∧
          (r.setConnection slot.id c.write.2).close key .writeFailed = some r')) := by
  unfold transmit at h
  obtain ⟨c, hc, h⟩ := Option.bind_eq_some_iff.mp h
  refine ⟨c, hc, ?_⟩
  simp only at h
  split at h
  case h_1 n hwrite =>
    split at h
    case isTrue hkeep =>
      obtain ⟨r₁, hput, h⟩ := Option.bind_eq_some_iff.mp h
      exact Or.inl ⟨n, r₁, hwrite, hkeep, hput, h⟩
    case isFalse hkeep => exact Or.inr (Or.inl ⟨n, hwrite, by simpa using hkeep, h⟩)
  case h_2 n hwrite =>
    cases n with
    | zero => exact Or.inr (Or.inr (Or.inr (Or.inl ⟨hwrite, (Option.some.inj h).symm⟩)))
    | succ n => exact Or.inr (Or.inr (Or.inl ⟨n, hwrite, h⟩))
  case h_3 hwrite => exact Or.inr (Or.inr (Or.inr (Or.inr ⟨Or.inl hwrite, h⟩)))
  case h_4 reason hwrite => exact Or.inr (Or.inr (Or.inr (Or.inr ⟨Or.inr ⟨reason, hwrite⟩, h⟩)))
  case h_5 => cases h

/-- A notice is about nothing, condemns or closes its slot, is what the slot waits for, or
is dropped. -/
theorem heed_cases {n : Notice} (h : r.heed now n = some r') :
    (r.slots.get? n.key = none ∧ r' = r) ∨
      ∃ slot, r.slots.get? n.key = some slot ∧
        ((n.hangUp = true ∧ slot.isAway = true ∧
            r' = r.updateSlot n.key (·.condemn .hangUp)) ∨
          (n.hangUp = true ∧ slot.isAway = false ∧ r.close n.key .hangUp = some r') ∨
          (n.hangUp = false ∧ slot.awaits = some .read ∧ n.readable = true ∧
            r.receive now n.key slot = some r') ∨
          (n.hangUp = false ∧ slot.awaits = some .write ∧ n.writable = true ∧
            r.transmit now n.key slot = some r') ∨
          (n.hangUp = false ∧ (slot.awaits = some .read → n.readable = false) ∧
            (slot.awaits = some .write → n.writable = false) ∧ r' = r)) := by
  unfold heed at h
  split at h
  case h_1 hnone => exact Or.inl ⟨hnone, (Option.some.inj h).symm⟩
  case h_2 slot hslot =>
    refine Or.inr ⟨slot, hslot, ?_⟩
    cases hhang : n.hangUp with
    | true =>
      rw [hhang, if_pos rfl] at h
      cases haway : slot.isAway with
      | true =>
        rw [haway, if_pos rfl] at h
        exact Or.inl ⟨rfl, rfl, (Option.some.inj h).symm⟩
      | false =>
        rw [haway, if_neg Bool.false_ne_true] at h
        exact Or.inr (Or.inl ⟨rfl, rfl, h⟩)
    | false =>
      rw [hhang, if_neg Bool.false_ne_true] at h
      cases hawaits : slot.awaits with
      | none =>
        rw [hawaits] at h
        exact Or.inr (Or.inr (Or.inr (Or.inr ⟨rfl, nofun, nofun, (Option.some.inj h).symm⟩)))
      | some readiness =>
        rw [hawaits] at h
        cases readiness with
        | read =>
          cases hready : n.readable with
          | true =>
            simp only [hready, if_true] at h
            exact Or.inr (Or.inr (Or.inl ⟨rfl, rfl, rfl, h⟩))
          | false =>
            simp only [hready, Bool.false_eq_true, if_false] at h
            exact Or.inr (Or.inr (Or.inr (Or.inr
              ⟨rfl, fun _ => rfl, nofun, (Option.some.inj h).symm⟩)))
        | write =>
          cases hready : n.writable with
          | true =>
            simp only [hready, if_true] at h
            exact Or.inr (Or.inr (Or.inr (Or.inl ⟨rfl, rfl, rfl, h⟩)))
          | false =>
            simp only [hready, Bool.false_eq_true, if_false] at h
            exact Or.inr (Or.inr (Or.inr (Or.inr
              ⟨rfl, nofun, fun _ => rfl, (Option.some.inj h).symm⟩)))

/-- The first connection of the backlog is gone, is condemned, goes into the queue or waits
on. -/
theorem offerFirst_cases {more : Bool} (h : r.offerFirst = some (r', more)) :
    (r.backlog = [] ∧ r' = r ∧ more = false) ∨
      ∃ t backlog, r.backlog = t :: backlog ∧
        ((r.slot? t = none ∧ r' = { r with backlog } ∧ more = true) ∨
          (∃ slot reason, r.slot? t = some slot ∧ slot.condemned = some reason ∧
            { r with backlog }.close t.key reason = some r' ∧ more = true) ∨
          (∃ slot pool, r.slot? t = some slot ∧ slot.condemned = none ∧
            r.pool.offer { ticket := t } = .ok pool ∧ r' = { r with backlog, pool } ∧
            more = true) ∨
          (∃ slot, r.slot? t = some slot ∧ slot.condemned = none ∧
            r.pool.offer { ticket := t } = .error { ticket := t } ∧ r' = r ∧ more = false)) := by
  unfold offerFirst at h
  split at h
  case h_1 hnil =>
    cases h
    exact Or.inl ⟨hnil, rfl, rfl⟩
  case h_2 t backlog hcons =>
    refine Or.inr ⟨t, backlog, hcons, ?_⟩
    split at h
    case h_1 hslot =>
      cases h
      exact Or.inl ⟨hslot, rfl, rfl⟩
    case h_2 slot hslot =>
      split at h
      case h_1 reason hreason =>
        obtain ⟨r₁, hclose, h⟩ := Option.map_eq_some_iff.mp h
        cases h
        exact Or.inr (Or.inl ⟨slot, reason, hslot, hreason, hclose, rfl⟩)
      case h_2 hreason =>
        split at h
        case h_1 pool hoffer =>
          cases h
          exact Or.inr (Or.inr (Or.inl ⟨slot, pool, hslot, hreason, hoffer, rfl, rfl⟩))
        case h_2 job hoffer =>
          cases h
          obtain ⟨-, rfl⟩ := WorkerPool.offer_eq_error hoffer
          exact Or.inr (Or.inr (Or.inr ⟨slot, hslot, hreason, hoffer, rfl, rfl⟩))

/-- The first message is about nothing, or brings a connection back: it is closed, or waits
for its socket. -/
theorem hearFirst_cases (h : r.hearFirst = some r') :
    (r.messages = [] ∧ r' = r) ∨
      ∃ t next messages, r.messages = (t, next) :: messages ∧
        ((r.slot? t = none ∧ r' = { r with messages }) ∨
          ∃ slot, r.slot? t = some slot ∧
            ((∃ reason, (slot.condemned = some reason ∨
                  slot.condemned = none ∧ next = .close ∧ reason = .rejected) ∧
                ({ r with messages }.updateSlot t.key Slot.comeBack).close t.key reason
                  = some r') ∨
              (∃ readiness, slot.condemned = none ∧
                (next = .read ∧ readiness = .read ∨ next = .write ∧ readiness = .write) ∧
                ({ r with messages }.updateSlot t.key Slot.comeBack).await t.key readiness
                  = some r'))) := by
  unfold hearFirst at h
  split at h
  case h_1 hnil => exact Or.inl ⟨hnil, (Option.some.inj h).symm⟩
  case h_2 t next messages hcons =>
    refine Or.inr ⟨t, next, messages, hcons, ?_⟩
    simp only at h
    split at h
    case h_1 hslot => exact Or.inl ⟨hslot, (Option.some.inj h).symm⟩
    case h_2 slot hslot =>
      refine Or.inr ⟨slot, hslot, ?_⟩
      split at h
      case h_1 reason hreason => exact Or.inl ⟨reason, Or.inl hreason, h⟩
      case h_2 hreason => exact Or.inr ⟨.read, hreason, Or.inl ⟨rfl, rfl⟩, h⟩
      case h_3 hreason => exact Or.inr ⟨.write, hreason, Or.inr ⟨rfl, rfl⟩, h⟩
      case h_4 hreason => exact Or.inl ⟨.rejected, Or.inr ⟨hreason, rfl, rfl⟩, h⟩

/-- A connection whose deadline has passed is gone, is condemned, or is closed. -/
theorem endOverdue_cases {t : Ticket} (h : r.endOverdue t = some r') :
    (r.slot? t = none ∧ r' = r) ∨
      ∃ slot, r.slot? t = some slot ∧
        ((slot.isAway = true ∧
            r' = (r.updateSlot t.key fun s => { s with deadline := none }).updateSlot t.key
              (·.condemn .idleTimeout)) ∨
          (slot.isAway = false ∧
            (r.updateSlot t.key fun s => { s with deadline := none }).close t.key .idleTimeout
              = some r')) := by
  unfold endOverdue at h
  split at h
  case h_1 hslot => exact Or.inl ⟨hslot, (Option.some.inj h).symm⟩
  case h_2 slot hslot =>
    refine Or.inr ⟨slot, hslot, ?_⟩
    simp only at h
    split at h
    case isTrue haway => exact Or.inl ⟨haway, (Option.some.inj h).symm⟩
    case isFalse haway => exact Or.inr ⟨by simpa using haway, h⟩

/-- What each end of an overdue connection keeps, a tick keeps. -/
theorem tick_induction {P : EventLoop → Prop} (h : r.tick now = some r')
    (hstart : ∀ deadlines, P { r with deadlines })
    (hend : ∀ s t s', P s → s.endOverdue t = some s' → P s') : P r' := by
  obtain ⟨⟨expired, deadlines⟩, -, h⟩ := Option.bind_eq_some_iff.mp h
  have hall : ∀ (ts : List Ticket) (s : EventLoop), P s → ts.foldlM endOverdue s = some r' →
      P r' := by
    intro ts
    induction ts with
    | nil =>
      intro s hs h
      cases h
      exact hs
    | cons t ts ih =>
      intro s hs h
      obtain ⟨s₁, hone, h⟩ := Option.bind_eq_some_iff.mp h
      exact ih s₁ (hend s t s₁ hs hone) h
  exact hall expired _ (hstart deadlines) h

/-! ## Workers -/

/-- A worker answers the request on the connection in its hands. -/
theorem process_cases {worker handle : Nat} (h : r.process worker handle = some r') :
    ∃ backend t c, r.handles[handle]? = some backend ∧
      r.pool.workers[worker]? = some (.handling ⟨t, none⟩) ∧
      r.connections[t.id]? = some c ∧
      r' = { r.setConnection t.id
          (c.process r.service ⟨r.credentials, backend, r.storage⟩).2.1 with
        credentials := (c.process r.service ⟨r.credentials, backend, r.storage⟩).2.2.credentials
        storage := (c.process r.service ⟨r.credentials, backend, r.storage⟩).2.2.storage
        pool := r.pool.move worker (.handling
          ⟨t, some (c.process r.service ⟨r.credentials, backend, r.storage⟩).1⟩) } := by
  unfold process at h
  obtain ⟨backend, hbackend, h⟩ := Option.bind_eq_some_iff.mp h
  obtain ⟨phase, hphase, h⟩ := Option.bind_eq_some_iff.mp h
  split at h
  case h_1 t =>
    obtain ⟨c, hc, h⟩ := Option.bind_eq_some_iff.mp h
    exact ⟨backend, t, c, hbackend, hphase, hc, (Option.some.inj h).symm⟩
  case h_2 => cases h

/-- A worker that is done tells what the connection needs, and waits. -/
theorem send_cases {worker : Nat} (h : r.send worker = some r') :
    ∃ t next, r.pool.workers[worker]? = some (.handling ⟨t, some next⟩) ∧
      r' = { r with
        pool := { r.pool with finished := ⟨t, some next⟩ :: r.pool.finished }.move worker .waiting
        messages := r.messages ++ [(t, next)] } := by
  unfold send at h
  obtain ⟨phase, hphase, h⟩ := Option.bind_eq_some_iff.mp h
  split at h
  case h_1 t next =>
    obtain ⟨pool, hpool, h⟩ := Option.bind_eq_some_iff.mp h
    simp only [WorkerPool.step, hphase, Option.some.injEq] at hpool
    exact ⟨t, next, hphase, by rw [hpool]; exact (Option.some.inj h).symm⟩
  case h_2 => cases h

end EventLoop
end Server
end SiteServer
