import SiteServer.Proofs.Server.Retention

/-!
# What the loop leaves alone

The loop reads from and writes to the connection whose slot a notice names, and from no
other.  Said without speaking of reading: if another connection is put in the place of
connection `id`, a step of the loop comes to the same, with the other connection still in
its place.  So the loop neither sees the connection nor changes it.

* `setConnection_step`: this holds of every step of the loop, apart from a notice for a slot
  of this connection that waits for its socket.
* `connection_of_step`: hence the connection is after the step what it was before.
-/

namespace SiteServer
namespace Server

/-- Whether an event is a step of the loop's thread. -/
def Event.isOfLoop : Event → Bool
  | .poll _ | .heed _ | .accept _ _ _ | .offer | .hear | .tick _ => true
  | _ => false

namespace EventLoop

variable {r r' : EventLoop} {id : Nat} (c : Http.Connection)

/-! ## Operations without a connection -/

theorem setConnection_close (r : EventLoop) (id key : Nat) (reason : ClosingReason) :
    (r.setConnection id c).close key reason
      = (r.close key reason).map (·.setConnection id c) := by
  cases hslot : r.slots.get? key with
  | none =>
    have hslot' : (r.setConnection id c).slots.get? key = none := hslot
    simp only [close, hslot, hslot', Option.map_some]
  | some slot =>
    have hslot' : (r.setConnection id c).slots.get? key = some slot := hslot
    have hsame : (r.setConnection id c).deadlinesWithout slot = r.deadlinesWithout slot := rfl
    simp only [close, hslot, hslot', hsame, Option.map_map]
    rfl

theorem setConnection_putOff (r : EventLoop) (id now key : Nat) :
    (r.setConnection id c).putOff now key = (r.putOff now key).map (·.setConnection id c) := by
  cases hdeadline : (r.slots.get? key).bind (·.deadline) with
  | none =>
    have hdeadline' : ((r.setConnection id c).slots.get? key).bind (·.deadline) = none :=
      hdeadline
    simp only [putOff, hdeadline, hdeadline', Option.map_some]
  | some deadline =>
    have hdeadline' : ((r.setConnection id c).slots.get? key).bind (·.deadline)
        = some deadline := hdeadline
    simp only [putOff, hdeadline, hdeadline', Option.map_map]
    rfl

theorem setConnection_await (r : EventLoop) (id key : Nat) (readiness : Readiness) :
    (r.setConnection id c).await key readiness
      = (r.await key readiness).map (·.setConnection id c) := by
  cases hslot : r.slots.get? key with
  | none =>
    have hslot' : (r.setConnection id c).slots.get? key = none := hslot
    simp only [await, hslot, hslot', Option.map_some]
  | some slot =>
    have hslot' : (r.setConnection id c).slots.get? key = some slot := hslot
    simp only [await, hslot, hslot']
    by_cases hrefused : slot.id ∈ (r.updateSlot key (·.await readiness)).unwatched
    · have hrefused' : slot.id
          ∈ ((r.setConnection id c).updateSlot key (·.await readiness)).unwatched := hrefused
      rw [if_pos hrefused', if_pos hrefused]
      exact setConnection_close c (r.updateSlot key (·.await readiness)) id key .rearmFailed
    · have hrefused' : slot.id
          ∉ ((r.setConnection id c).updateSlot key (·.await readiness)).unwatched := hrefused
      rw [if_neg hrefused', if_neg hrefused]
      rfl

theorem setConnection_handOver (r : EventLoop) (id key : Nat) :
    (r.setConnection id c).handOver key = (r.handOver key).setConnection id c := by
  cases hslot : r.slots.get? key with
  | none =>
    have hslot' : (r.setConnection id c).slots.get? key = none := hslot
    simp only [handOver, hslot, hslot']
  | some slot =>
    have hslot' : (r.setConnection id c).slots.get? key = some slot := hslot
    rcases handOver_cases hslot with ⟨pool, hoffer, heq⟩ | ⟨hoffer, heq⟩ <;>
    rcases handOver_cases hslot' with ⟨pool', hoffer', heq'⟩ | ⟨hoffer', heq'⟩
    · obtain rfl : pool = pool' := Except.ok.inj (hoffer.symm.trans hoffer')
      rw [heq, heq']
      rfl
    · cases hoffer.symm.trans hoffer'
    · cases hoffer.symm.trans hoffer'
    · rw [heq, heq']
      rfl

theorem setConnection_offerFirst (r : EventLoop) (id : Nat) :
    (r.setConnection id c).offerFirst.map Prod.fst
      = (r.offerFirst.map Prod.fst).map (·.setConnection id c) := by
  cases hbacklog : r.backlog with
  | nil =>
    have hbacklog' : (r.setConnection id c).backlog = [] := hbacklog
    simp only [offerFirst, hbacklog, hbacklog', Option.map_some]
  | cons t backlog =>
    have hbacklog' : (r.setConnection id c).backlog = t :: backlog := hbacklog
    cases hslot : r.slot? t with
    | none =>
      have hslot' : (r.setConnection id c).slot? t = none := hslot
      simp only [offerFirst, hbacklog, hbacklog', hslot, hslot', Option.map_some]
      rfl
    | some slot =>
      have hslot' : (r.setConnection id c).slot? t = some slot := hslot
      simp only [offerFirst, hbacklog, hbacklog', hslot, hslot']
      cases slot.condemned with
      | some reason =>
        have hclose := setConnection_close c { r with backlog } id t.key reason
        simp only [Option.map_map]
        exact (congrArg (Option.map _) hclose).trans (Option.map_map ..)
      | none =>
        have hpool : (r.setConnection id c).pool = r.pool := rfl
        simp only [hpool]
        cases r.pool.offer { ticket := t } with
        | error job => rfl
        | ok pool => rfl

theorem setConnection_hearFirst (r : EventLoop) (id : Nat) :
    (r.setConnection id c).hearFirst = r.hearFirst.map (·.setConnection id c) := by
  cases hmessages : r.messages with
  | nil =>
    have hmessages' : (r.setConnection id c).messages = [] := hmessages
    simp only [hearFirst, hmessages, hmessages', Option.map_some]
  | cons message messages =>
    obtain ⟨t, next⟩ := message
    have hmessages' : (r.setConnection id c).messages = (t, next) :: messages := hmessages
    have hsame : ({ r.setConnection id c with messages } : EventLoop).slot? t
        = ({ r with messages } : EventLoop).slot? t := rfl
    simp only [hearFirst, hmessages, hmessages', hsame]
    cases ({ r with messages } : EventLoop).slot? t with
    | none => rfl
    | some slot =>
      have hclose := fun reason =>
        setConnection_close c ({ r with messages }.updateSlot t.key Slot.comeBack) id t.key reason
      have hawait := fun readiness =>
        setConnection_await c ({ r with messages }.updateSlot t.key Slot.comeBack) id t.key
          readiness
      simp only
      cases slot.condemned with
      | some reason => cases next <;> exact hclose reason
      | none =>
        cases next with
        | read => exact hawait .read
        | write => exact hawait .write
        | close => exact hclose .rejected

theorem setConnection_endOverdue (r : EventLoop) (id : Nat) (t : Ticket) :
    (r.setConnection id c).endOverdue t = (r.endOverdue t).map (·.setConnection id c) := by
  cases hslot : r.slot? t with
  | none =>
    have hslot' : (r.setConnection id c).slot? t = none := hslot
    simp only [endOverdue, hslot, hslot', Option.map_some]
  | some slot =>
    have hslot' : (r.setConnection id c).slot? t = some slot := hslot
    simp only [endOverdue, hslot, hslot']
    cases slot.isAway with
    | true => rfl
    | false =>
      exact setConnection_close c (r.updateSlot t.key fun s => { s with deadline := none }) id
        t.key .idleTimeout

theorem setConnection_tick (r : EventLoop) (id now : Nat) :
    (r.setConnection id c).tick now = (r.tick now).map (·.setConnection id c) := by
  have hall : ∀ (ts : List Ticket) (s : EventLoop),
      ts.foldlM endOverdue (s.setConnection id c)
        = (ts.foldlM endOverdue s).map (·.setConnection id c) := by
    intro ts
    induction ts with
    | nil => exact fun _ => rfl
    | cons t ts ih =>
      intro s
      rw [List.foldlM_cons, List.foldlM_cons, setConnection_endOverdue]
      cases s.endOverdue t with
      | none => rfl
      | some s₁ => exact ih s₁
  unfold tick
  show (r.deadlines.takeDue now).bind _ = ((r.deadlines.takeDue now).bind _).map _
  cases r.deadlines.takeDue now with
  | none => rfl
  | some found => exact hall found.1 { r with deadlines := found.2 }

/-- A new connection comes after all others. -/
theorem setConnection_accept (r : EventLoop) (hid : id < r.connections.length) (now : Nat)
    (peer : Net.SocketAddress) (stream : Stream) :
    (r.setConnection id c).accept now peer stream
      = (r.accept now peer stream).map (·.setConnection id c) := by
  have hlength : (r.setConnection id c).connections.length = r.connections.length :=
    List.length_set
  have hturned : ((r.setConnection id c).isFull
        || decide ((r.setConnection id c).connections.length ∈ (r.setConnection id c).unwatched))
      = (r.isFull || decide (r.connections.length ∈ r.unwatched)) := by
    rw [hlength]
    rfl
  unfold accept
  rw [hturned, hlength]
  cases r.isFull || decide (r.connections.length ∈ r.unwatched) with
  | true => rfl
  | false =>
    show Option.bind (r.deadlines.insert (now + r.window) ⟨r.slots.nextKey, _⟩) _
      = (Option.bind (r.deadlines.insert (now + r.window) ⟨r.slots.nextKey, _⟩) _).map _
    cases r.deadlines.insert (now + r.window) ⟨r.slots.nextKey, r.connections.length⟩ with
    | none => rfl
    | some found =>
      simp only [Option.bind_some, Option.map_some, setConnection, List.set_append_left _ _ hid]

/-! ## Operations on another connection -/

theorem getElem?_setConnection (r : EventLoop) {id other : Nat} (h : other ≠ id) :
    (r.setConnection id c).connections[other]? = r.connections[other]? :=
  List.getElem?_set_ne h.symm

theorem setConnection_comm (r : EventLoop) {id other : Nat} (h : other ≠ id)
    (d : Http.Connection) :
    (r.setConnection id c).setConnection other d
      = (r.setConnection other d).setConnection id c := by
  simp only [setConnection, List.set_comm c d h.symm]

theorem setConnection_receive (r : EventLoop) (now key : Nat) {slot : Slot}
    (h : slot.id ≠ id) :
    (r.setConnection id c).receive now key slot
      = (r.receive now key slot).map (·.setConnection id c) := by
  unfold receive
  rw [getElem?_setConnection c r h]
  cases r.connections[slot.id]? with
  | none => rfl
  | some d =>
    simp only [Option.bind_eq_bind, Option.bind_some, setConnection_comm c r h]
    have hclose := fun reason =>
      setConnection_close c (r.setConnection slot.id d.read.2) id key reason
    rcases d.read.1 with _ | (_ | n) | _ | _
    · exact hclose .readFailed
    · rfl
    · simp only [setConnection_putOff, Option.map_map, Function.comp_def,
        setConnection_handOver]
    · exact hclose .peerClosed
    · exact hclose .bufferFull

theorem setConnection_transmit (r : EventLoop) (now key : Nat) {slot : Slot}
    (h : slot.id ≠ id) :
    (r.setConnection id c).transmit now key slot
      = (r.transmit now key slot).map (·.setConnection id c) := by
  unfold transmit
  rw [getElem?_setConnection c r h]
  cases r.connections[slot.id]? with
  | none => rfl
  | some d =>
    simp only [Option.bind_eq_bind, Option.bind_some, setConnection_comm c r h]
    have hclose := fun reason =>
      setConnection_close c (r.setConnection slot.id d.write.2) id key reason
    have hput := fun d => setConnection_putOff c (r.setConnection slot.id d) id now key
    cases d.write.1 with
    | done n =>
      cases d.write.2.keepAlive with
      | true =>
        simp only [if_true, hput]
        cases (r.setConnection slot.id d.write.2.reset).putOff now key with
        | none => rfl
        | some r₁ => exact setConnection_await c r₁ id key .read
      | false => exact hclose .completed
    | blocked n =>
      by_cases hn : 0 < n
      · simp only [if_pos hn, hput]
      · simp only [if_neg hn, Option.map_some]
    | closedWhileWriting => exact hclose .writeFailed
    | failed reason => exact hclose .writeFailed
    | outOfRange => rfl

/-- A notice is followed only into a slot that waits for something. -/
theorem setConnection_heed (r : EventLoop) (now : Nat) (n : Notice)
    (h : ∀ slot, r.slots.get? n.key = some slot → slot.id = id → slot.awaits = none) :
    (r.setConnection id c).heed now n = (r.heed now n).map (·.setConnection id c) := by
  cases hslot : r.slots.get? n.key with
  | none =>
    have hslot' : (r.setConnection id c).slots.get? n.key = none := hslot
    simp only [heed, hslot, hslot', Option.map_some]
  | some slot =>
    have hslot' : (r.setConnection id c).slots.get? n.key = some slot := hslot
    simp only [heed, hslot, hslot']
    cases n.hangUp with
    | true =>
      cases slot.isAway with
      | true => rfl
      | false => exact setConnection_close c r id n.key .hangUp
    | false =>
      have hother : ∀ readiness, slot.awaits = some readiness → slot.id ≠ id := by
        intro readiness hawaits heq
        rw [h slot hslot heq] at hawaits
        cases hawaits
      cases hawaits : slot.awaits with
      | none => rfl
      | some readiness =>
        cases readiness with
        | read =>
          cases n.readable with
          | true => exact setConnection_receive c r now n.key (hother .read hawaits)
          | false => rfl
        | write =>
          cases n.writable with
          | true => exact setConnection_transmit c r now n.key (hother .write hawaits)
          | false => rfl

/-! ## Connections stay -/

theorem connections_close {key : Nat} {reason : ClosingReason}
    (h : r.close key reason = some r') : r'.connections = r.connections := by
  rcases close_cases h with ⟨-, rfl⟩ | ⟨slot, deadlines, -, -, rfl⟩ <;> rfl

theorem connections_putOff {now key : Nat} (h : r.putOff now key = some r') :
    r'.connections = r.connections := by
  rcases putOff_cases h with ⟨-, rfl⟩ | ⟨_, _, _, -, -, rfl⟩ <;> rfl

theorem connections_await {key : Nat} {readiness : Readiness}
    (h : r.await key readiness = some r') : r'.connections = r.connections := by
  rcases await_cases h with ⟨-, rfl⟩ | ⟨slot, -, ⟨-, rfl⟩ | ⟨-, hclose⟩⟩
  · rfl
  · rfl
  · exact (connections_close hclose).trans rfl

/-! ## Steps -/

/-- **The loop does not see a connection that does not wait for its socket.** -/
theorem setConnection_step (r : EventLoop) {e : Event} (he : e.isOfLoop = true)
    (hid : id < r.connections.length)
    (h : ∀ key slot, r.slots.get? key = some slot → slot.id = id → slot.awaits = none) :
    (r.setConnection id c).step e = (r.step e).map (·.setConnection id c) := by
  cases e with
  | poll batch =>
    show (if (r.batch.isEmpty && batch.all r.isAbout) = true then _ else _)
      = Option.map _ (if (r.batch.isEmpty && batch.all r.isAbout) = true then _ else _)
    by_cases hbatch : (r.batch.isEmpty && batch.all r.isAbout) = true
    · rw [if_pos hbatch, if_pos hbatch]
      rfl
    · rw [if_neg hbatch, if_neg hbatch]
      rfl
  | heed now =>
    cases hbatch : r.batch with
    | nil =>
      have hbatch' : (r.setConnection id c).batch = [] := hbatch
      simp only [step, hbatch, hbatch', Option.map_none]
    | cons n batch =>
      have hbatch' : (r.setConnection id c).batch = n :: batch := hbatch
      simp only [step, hbatch, hbatch']
      exact setConnection_heed c { r with batch } now n (h n.key)
  | accept now peer stream => exact setConnection_accept c r hid now peer stream
  | offer => exact setConnection_offerFirst c r id
  | hear => exact setConnection_hearFirst c r id
  | tick now => exact setConnection_tick c r id now
  | arrive | expect | refuse | post | take | test | pop | process | send => cases he

/-- The loop changes no connection that does not wait for its socket. -/
theorem connection_of_step {e : Event} (he : e.isOfLoop = true)
    (hid : id < r.connections.length)
    (h : ∀ key slot, r.slots.get? key = some slot → slot.id = id → slot.awaits = none)
    (hstep : r.step e = some r') : r'.connections[id]? = r.connections[id]? := by
  have hput : r.setConnection id r.connections[id] = r := by
    simp only [setConnection, List.set_getElem_self]
  -- putting the connection in its own place changes nothing before the step, nor after it
  have hcomm := setConnection_step r.connections[id] r he hid h
  rw [hput, hstep, Option.map_some, Option.some.injEq] at hcomm
  have hlength : id < r'.connections.length :=
    Nat.lt_of_lt_of_le hid (length_connections_le hstep)
  rw [hcomm, List.getElem?_eq_getElem hid]
  exact List.getElem?_set_self hlength

end EventLoop
end Server
end SiteServer
