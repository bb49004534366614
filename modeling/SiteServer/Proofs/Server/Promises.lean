import SiteServer.Proofs.Http.Announcements
import SiteServer.Proofs.Http.Independence
import SiteServer.Proofs.Server.Books

/-!
# Announcements are honoured

A response says in its head whether the connection stays open, and a client goes by it.  The
loop goes by the flag of the connection, many steps later and after any number of writes.

* `exists_followed_of_reachable`: the connections of a server are those that the announcements
  were shown for, so that what is put on its way says in its head what the flag says; and none of
  them has answered since it was reset when a worker has it in its hands.
* `Honoured`: what the loop does with a connection after a write, by what the head has said.
  That it does nothing else needs that the books balance, as otherwise it might stop halfway.

Between the two the flag and the head stay as they are (`Connection.Staged`).
-/

namespace SiteServer

namespace Http

variable {v : Service} {calls : List Call} {call : Call}

/-- Whether a connection has answered since it was reset, by the calls on it. -/
def Call.hasAnswered (v : Service) (calls : List Call) : Bool :=
  !(answers v (sinceReset calls)).isEmpty

theorem Call.hasAnswered_concat_of_none (h : call.isReset = false)
    (hnone : call.answer? v = none) : hasAnswered v (calls ++ [call]) = hasAnswered v calls := by
  rw [hasAnswered, hasAnswered, sinceReset_concat h, answers_concat_of_none hnone]

theorem Call.hasAnswered_concat_of_ne_none (h : call.isReset = false)
    (hsome : call.answer? v ≠ none) : hasAnswered v (calls ++ [call]) = true := by
  obtain ⟨r, hr⟩ := Option.ne_none_iff_exists'.mp hsome
  simp [hasAnswered, sinceReset_concat h, answers_concat, hr]

theorem Call.hasAnswered_concat_reset (h : call.isReset = true) :
    hasAnswered v (calls ++ [call]) = false := by
  rw [hasAnswered, sinceReset_concat_reset h]
  rfl

theorem Call.hasAnswered_concat_of_create (h : call.kind = .create) :
    hasAnswered v ([] ++ [call]) = false := by
  simp [hasAnswered, sinceReset, answers, answer?, isReset, h]

/-- Processing comes up with no answer exactly if the connection needs to be read then. -/
theorem Call.answer?_process_eq_none_iff {number : Nat} {session : Store.Session}
    {c : Connection} :
    (⟨number, .process session, c⟩ : Call).answer? v = none ↔ (c.process v session).1 = .read := by
  obtain ⟨result, parser, buffer, hparse, ⟨rfl, hprocess⟩ |
    ⟨r, need, writer, session', hanswer, hprocess, hneed, -⟩⟩ := c.process_cases v session
  · simp [answer?, hparse, hprocess]
  · rw [hprocess]
    cases hanswer <;> simp [answer?, hparse, hneed]

/-- A call that creates nothing leads to a state that is reached, and the calls tell whether the
connection has answered in it. -/
theorem Connection.reached_after (hkind : call.kind ≠ .create)
    (h : Reached v.dialect (Call.hasAnswered v calls) call.before) :
    Reached v.dialect (Call.hasAnswered v (calls ++ [call])) (call.after v) := by
  obtain ⟨number, kind, before⟩ := call
  cases kind with
  | create => exact absurd rfl hkind
  | read =>
    rw [Call.hasAnswered_concat_of_none rfl rfl]
    exact h.read
  | process session =>
    by_cases hneed : (before.process v session).1 = .read
    · rw [Call.hasAnswered_concat_of_none rfl (Call.answer?_process_eq_none_iff.mpr hneed)]
      exact h.wait v session rfl hneed
    · rw [Call.hasAnswered_concat_of_ne_none rfl (mt Call.answer?_process_eq_none_iff.mp hneed)]
      exact h.answer v session rfl hneed
  | write =>
    rw [Call.hasAnswered_concat_of_none rfl rfl]
    exact h.write
  | reset =>
    rw [Call.hasAnswered_concat_reset rfl]
    exact h.reset

end Http

namespace Server
namespace EventLoop

open Http (Call Connection FlushOutcome Receipt Service)

variable {r r' : EventLoop} {key now : Nat} {config : Config} {service : Service}
  {credentials : Store.Credentials} {storage : Store.Storage} {handles : List Store.Backend}
  {r₀ : EventLoop} {g : Agenda DeadlineId Ticket} {v : Service}

/-! ## The connections of a server -/

/-- All connections are those that were accepted, and calls on them. -/
def AllReached (v : Service) (cs : List Connection) : Prop :=
  ∀ c ∈ cs, ∃ answered, Connection.Reached v.dialect answered c

/-- The connections are those that the calls on them have led to; whether one has answered since
it was reset is what its calls say. -/
structure Followed (v : Service) (hs : List Call) (cs : List Connection) : Prop where
  untouched : ∀ id, cs.length ≤ id → callsOn id hs = []
  reached : ∀ id c, cs[id]? = some c →
    Connection.Reached v.dialect (Call.hasAnswered v (callsOn id hs)) c

theorem callsOn_concat (id : Nat) (hs : List Call) (call : Call) :
    callsOn id (hs ++ [call]) = callsOn id hs ++ if call.number = id then [call] else [] := by
  rw [callsOn_append]
  by_cases hid : call.number = id <;> simp [callsOn, hid]

/-- A call that is replayed adds a connection or changes the one it was made on. -/
theorem replay?_cases {cs cs' : List Connection} {call : Call}
    (h : call.replay? v cs = some cs') :
    (call.kind = .create ∧ call.number = cs.length ∧ cs' = cs ++ [call.before]) ∨
      (call.kind ≠ .create ∧ cs[call.number]? = some call.before ∧
        cs' = cs.set call.number (call.after v)) := by
  unfold Call.replay? at h
  split at h
  case h_1 hkind =>
    obtain ⟨hnumber, heq⟩ := Option.ite_none_right_eq_some.mp h
    exact Or.inl ⟨hkind, hnumber, (Option.some.inj heq).symm⟩
  case h_2 hkind =>
    obtain ⟨hbefore, heq⟩ := Option.ite_none_right_eq_some.mp h
    exact Or.inr ⟨hkind, hbefore, (Option.some.inj heq).symm⟩

/-- A connection that is created has not answered, as nothing was called on it before. -/
theorem Followed.create {hs : List Call} {cs : List Connection} (h : Followed v hs cs)
    {call : Call} (hkind : call.kind = .create) (hnumber : call.number = cs.length)
    (hbefore : Connection.Reached v.dialect false call.before) :
    Followed v (hs ++ [call]) (cs ++ [call.before]) := by
  refine ⟨fun id hle => ?_, fun id c hc => ?_⟩
  · rw [List.length_append, List.length_singleton] at hle
    rw [callsOn_concat, h.untouched id (by omega), if_neg (by omega), List.append_nil]
  · rw [callsOn_concat]
    rcases Nat.lt_or_ge id cs.length with hlt | hge
    · rw [List.getElem?_append_left hlt] at hc
      rw [if_neg (by omega), List.append_nil]
      exact h.reached id c hc
    · have hid : id = cs.length := by
        have hlt := (List.getElem?_eq_some_iff.mp hc).1
        rw [List.length_append, List.length_singleton] at hlt
        omega
      subst hid
      rw [List.getElem?_concat_length] at hc
      obtain rfl := Option.some.inj hc
      rw [h.untouched _ (Nat.le_refl _), if_pos hnumber, Call.hasAnswered_concat_of_create hkind]
      exact hbefore

/-- A call that creates nothing changes what its connection has come to. -/
theorem Followed.call {hs : List Call} {cs : List Connection} (h : Followed v hs cs)
    {call : Call} (hkind : call.kind ≠ .create) (hbefore : cs[call.number]? = some call.before) :
    Followed v (hs ++ [call]) (cs.set call.number (call.after v)) := by
  obtain ⟨hnumber, -⟩ := List.getElem?_eq_some_iff.mp hbefore
  refine ⟨fun id hle => ?_, fun id c hc => ?_⟩
  · rw [List.length_set] at hle
    rw [callsOn_concat, h.untouched id hle, if_neg (by omega), List.append_nil]
  · rw [callsOn_concat]
    by_cases hid : call.number = id
    · subst hid
      rw [List.getElem?_set_self hnumber] at hc
      obtain rfl := Option.some.inj hc
      rw [if_pos rfl]
      exact Connection.reached_after hkind (h.reached _ _ hbefore)
    · rw [List.getElem?_set_ne hid] at hc
      rw [if_neg hid, List.append_nil]
      exact h.reached id c hc

theorem Followed.replay {hs : List Call} {cs cs' : List Connection} (h : Followed v hs cs)
    {call : Call}
    (hcreate : call.kind = .create → Connection.Reached v.dialect false call.before)
    (hcall : call.replay? v cs = some cs') : Followed v (hs ++ [call]) cs' := by
  rcases replay?_cases hcall with ⟨hkind, hnumber, rfl⟩ | ⟨hkind, hbefore, rfl⟩
  · exact h.create hkind hnumber (hcreate hkind)
  · exact h.call hkind hbefore

theorem Followed.replayAll {hs : List Call} {cs cs' : List Connection} {calls : List Call}
    (h : Followed v hs cs)
    (hcreate : ∀ call ∈ calls, call.kind = .create →
      Connection.Reached v.dialect false call.before)
    (hcalls : calls.foldlM (Call.replay? v) cs = some cs') : Followed v (hs ++ calls) cs' := by
  induction calls generalizing hs cs with
  | nil =>
    cases hcalls
    rwa [List.append_nil]
  | cons call calls ih =>
    obtain ⟨cs₁, hone, hcalls⟩ := Option.bind_eq_some_iff.mp hcalls
    rw [List.forall_mem_cons] at hcreate
    have hrest := ih (h.replay hcreate.1 hone) hcreate.2 hcalls
    rwa [List.append_assoc] at hrest

/-- Whatever happens to a stream at its other end is no call. -/
theorem Followed.updateStream {hs : List Call} (h : Followed v hs r.connections) (id : Nat)
    (f : Stream → Stream) : Followed v hs (r.updateStream id f).connections := by
  unfold EventLoop.updateStream
  split
  case h_1 c hc =>
    obtain ⟨hid, -⟩ := List.getElem?_eq_some_iff.mp hc
    refine ⟨fun other hle => h.untouched other ?_, fun other c' hc' => ?_⟩
    · simpa only [setConnection, List.length_set] using hle
    · simp only [setConnection] at hc'
      by_cases heq : id = other
      · subst heq
        rw [List.getElem?_set_self hid] at hc'
        obtain rfl := Option.some.inj hc'
        exact (h.reached id c hc).stream _
      · rw [List.getElem?_set_ne heq] at hc'
        exact h.reached other c' hc'
  case h_2 => exact h

/-- Heeding a notice creates nothing. -/
theorem kind_ne_create_of_mem_noticeCalls {n : Notice} {call : Call}
    (hcall : call ∈ r.noticeCalls n) : call.kind ≠ .create := by
  unfold noticeCalls at hcall
  repeat' split at hcall
  all_goals
    simp only [List.mem_cons, List.not_mem_nil, or_false] at hcall
  all_goals
    rcases hcall with rfl | rfl <;> simp

/-- What the loop creates was just accepted. -/
theorem reached_of_create {e : Event} {call : Call} (hcall : call ∈ r.calls e)
    (hkind : call.kind = .create) : Connection.Reached v.dialect false call.before := by
  cases e with
  | accept now peer stream =>
    simp only [calls] at hcall
    split at hcall
    · cases hcall
    · rw [List.mem_singleton.mp hcall]
      exact .accepted _ _ _ _ _
  | heed now =>
    obtain ⟨n, -, hcall⟩ := exists_notice_of_mem_calls hcall
    exact absurd hkind (kind_ne_create_of_mem_noticeCalls hcall)
  | process worker handle =>
    obtain ⟨session, hprocess⟩ := exists_session_of_mem_calls hcall
    rw [hkind] at hprocess
    cases hprocess
  | arrive | expect | refuse | poll | offer | hear | tick | post | take | test | pop | send =>
    cases hcall

theorem Followed.step {hs : List Call} (h : Followed r.service hs r.connections) {e : Event}
    (hstep : r.step e = some r') : Followed r.service (hs ++ r.calls e) r'.connections := by
  have htouched : Followed r.service hs (r.touched e) := by
    cases e with
    | arrive id deliveries => exact h.updateStream id _
    | expect id acceptances => exact h.updateStream id _
    | refuse | poll | heed | accept | offer | hear | tick | post | take | test | pop | process
    | send => exact h
  exact htouched.replayAll (fun _ hcall => reached_of_create hcall) (replay_step hstep)

/-- The connections of a server have been accepted and called, and the calls on each are in
order. -/
theorem exists_followed_of_reachable
    (hstart : start config service credentials storage handles = .ok r₀) (h : Reachable r₀ r) :
    ∃ hs, Kept service r hs ∧ Followed service hs r.connections := by
  refine (h.induction (P := fun r => r.Disciplined none ∧
    ∃ hs, Kept service r hs ∧ Followed service hs r.connections)
    ⟨disciplined_start hstart, [], kept_start hstart, ?_⟩ fun s e t hs hstep => ?_).2
  · obtain ⟨pool, -, rfl⟩ := start_cases hstart
    exact ⟨fun _ _ => rfl, fun id c hc => by cases hc⟩
  · obtain ⟨hr, hs, hkept, hfollowed⟩ := hs
    have hkept' := hkept.step hr hstep
    rw [← hkept.service_eq] at hfollowed hkept' ⊢
    exact ⟨disciplined_step hr hstep, _, hkept', hfollowed.step hstep⟩

theorem Followed.allReached {hs : List Call} {cs : List Connection} (h : Followed v hs cs) :
    AllReached v cs := by
  intro c hc
  obtain ⟨id, hid⟩ := List.mem_iff_getElem?.mp hc
  exact ⟨_, h.reached id c hid⟩

/-- Whoever is in the hands of a worker has not answered since the last reset. -/
theorem Followed.unanswered {hs : List Call} (h : Followed v hs r.connections)
    (hkept : Kept v r hs) {worker : Nat} {t : Ticket} {c : Connection}
    (hphase : r.pool.workers[worker]? = some (.handling ⟨t, none⟩))
    (hc : r.connections[t.id]? = some c) : Connection.Reached v.dialect false c := by
  cases hkept.ready t.id .read c (expects_of_handling hphase) hc with
  | read hreading =>
    have hreached := h.reached t.id c hc
    rwa [Call.hasAnswered, hreading.unanswered] at hreached

/-! ## What becomes of a connection that was written -/

/-- A loop without a connection that it has closed. -/
def without (r : EventLoop) (key id : Nat) (reason : ClosingReason)
    (deadlines : DeadlineList Ticket) : EventLoop :=
  { r with
    slots := r.slots.remove key
    deadlines
    openCount := r.openCount - 1
    closed := (id, reason) :: r.closed }

/-- What the loop does with the connection in a slot after a write, by what the head has said
and what the write has come to.  `c` is what the connection is like after the write. -/
inductive Honoured (r : EventLoop) (key : Nat) (slot : Slot) (c : Connection) :
    Bool → FlushOutcome → EventLoop → Prop where
  /-- All was sent, so the connection starts anew and its slot waits to be read. -/
  | stays {n : Nat} (deadlines : DeadlineList Ticket) (watched : slot.id ∉ r.unwatched) :
    Honoured r key slot c true (.done n)
      { (r.setConnection slot.id c.reset).updateSlot key (·.await .read) with deadlines }
  /-- All was sent and the connection starts anew, but the machine will not watch its socket
  any longer. -/
  | unwatched {n : Nat} (deadlines : DeadlineList Ticket) (unwatched : slot.id ∈ r.unwatched) :
    Honoured r key slot c true (.done n)
      ((r.setConnection slot.id c.reset).without key slot.id .rearmFailed deadlines)
  /-- All was sent, and that was all. -/
  | completed {n : Nat} (deadlines : DeadlineList Ticket) :
    Honoured r key slot c false (.done n)
      ((r.setConnection slot.id c).without key slot.id .completed deadlines)
  /-- There is more to be sent, and the slot goes on waiting. -/
  | blocked {stays : Bool} {n : Nat} (deadlines : DeadlineList Ticket) :
    Honoured r key slot c stays (.blocked n) { r.setConnection slot.id c with deadlines }
  /-- The socket has failed, and the connection with it. -/
  | closed {stays : Bool} (deadlines : DeadlineList Ticket) :
    Honoured r key slot c stays .closedWhileWriting
      ((r.setConnection slot.id c).without key slot.id .writeFailed deadlines)
  | failed {stays : Bool} {reason : String} (deadlines : DeadlineList Ticket) :
    Honoured r key slot c stays (.failed reason)
      ((r.setConnection slot.id c).without key slot.id .writeFailed deadlines)

theorem Balanced.close_eq (h : r.Balanced config [] g) {slot : Slot}
    (hslot : r.slots.get? key = some slot) (reason : ClosingReason) :
    ∃ deadlines, r.close key reason = some (r.without key slot.id reason deadlines) := by
  obtain ⟨r', -, hclose, -⟩ := h.close key reason
  rcases close_cases hclose with ⟨hnone, -⟩ | ⟨slot', deadlines, hslot', -, rfl⟩
  · rw [hslot] at hnone
    cases hnone
  · obtain rfl := Option.some.inj (hslot.symm.trans hslot')
    exact ⟨deadlines, hclose⟩

/-- Putting off a deadline succeeds. -/
theorem Balanced.putOff_eq (h : r.Balanced config [] g) (now key : Nat) :
    ∃ deadlines, r.putOff now key = some { r with deadlines } := by
  unfold EventLoop.putOff
  split
  case h_1 => exact ⟨r.deadlines, rfl⟩
  case h_2 id _ =>
    obtain ⟨deadlines, hmove, -⟩ := h.represents.reschedule id (now + r.window)
    exact ⟨deadlines, by rw [hmove, Option.map_some]⟩

/-- Waiting for a socket succeeds, or closes the connection. -/
theorem Balanced.await_eq (h : r.Balanced config [] g) {slot : Slot}
    (hslot : r.slots.get? key = some slot) (readiness : Readiness) :
    (slot.id ∉ r.unwatched ∧
        r.await key readiness = some (r.updateSlot key (·.await readiness))) ∨
      (slot.id ∈ r.unwatched ∧ ∃ deadlines,
        r.await key readiness = some (r.without key slot.id .rearmFailed deadlines)) := by
  have hclose : (r.updateSlot key (·.await readiness)).close key .rearmFailed
      = r.close key .rearmFailed :=
    close_updateSlot (f := (·.await readiness)) (fun _ => ⟨rfl, rfl⟩) _
  simp only [EventLoop.await, hslot]
  by_cases hmem : slot.id ∈ r.unwatched
  · obtain ⟨deadlines, hdone⟩ := h.close_eq hslot .rearmFailed
    exact Or.inr ⟨hmem, deadlines, (if_pos hmem).trans (hclose.trans hdone)⟩
  · exact Or.inl ⟨hmem, if_neg hmem⟩

/-- A connection that has sent all and stays waits to be read, if its socket is watched. -/
theorem Balanced.stays (h : r.Balanced config [] g) (hr : r.Disciplined none) {slot : Slot}
    (hslot : r.slots.get? key = some slot) (haway : slot.isAway = false) (c : Connection)
    (n now : Nat) :
    ∃ r', ((r.setConnection slot.id c.reset).putOff now key).bind (·.await key .read) = some r' ∧
      Honoured r key slot c true (.done n) r' := by
  have hbalanced := h.setConnection slot.id c.reset
  obtain ⟨deadlines, hput⟩ := hbalanced.putOff_eq now key
  obtain ⟨g', hbalanced', -⟩ :=
    hbalanced.putOff (hr.setConnection slot.id c.reset) hslot haway hput
  rw [hput, Option.bind_some]
  rcases hbalanced'.await_eq hslot .read with
    ⟨hwatched, hawait⟩ | ⟨hunwatched, deadlines', hawait⟩
  · exact ⟨_, hawait, .stays deadlines hwatched⟩
  · exact ⟨_, hawait, .unwatched deadlines' hunwatched⟩

/-- Whatever a write comes to, the loop gets on, and goes by the flag. -/
theorem Balanced.honoured (h : r.Balanced config [] g) (hr : r.Disciplined none) {slot : Slot}
    (hslot : r.slots.get? key = some slot) (haway : slot.isAway = false) {c c' : Connection}
    {outcome : FlushOutcome} (hc : r.connections[slot.id]? = some c)
    (hwrite : c.write = (outcome, c')) (hrange : outcome ≠ .outOfRange) (now : Nat) :
    ∃ r', r.transmit now key slot = some r' ∧ Honoured r key slot c' c'.keepAlive outcome r' := by
  have hbalanced := h.setConnection slot.id c'
  simp only [EventLoop.transmit, hc, hwrite, Option.bind_eq_bind, Option.bind_some]
  cases outcome with
  | done n =>
    cases hkeep : c'.keepAlive with
    | true =>
      simp only [if_true]
      exact h.stays hr hslot haway c' n now
    | false =>
      obtain ⟨deadlines, hclose⟩ := hbalanced.close_eq hslot .completed
      simp only [Bool.false_eq_true, if_false]
      exact ⟨_, hclose, .completed deadlines⟩
  | blocked n =>
    simp only
    split
    case isTrue =>
      obtain ⟨deadlines, hput⟩ := hbalanced.putOff_eq now key
      exact ⟨_, hput, .blocked deadlines⟩
    case isFalse => exact ⟨_, rfl, .blocked r.deadlines⟩
  | closedWhileWriting =>
    obtain ⟨deadlines, hclose⟩ := hbalanced.close_eq hslot .writeFailed
    exact ⟨_, hclose, .closed deadlines⟩
  | failed reason =>
    obtain ⟨deadlines, hclose⟩ := hbalanced.close_eq hslot .writeFailed
    exact ⟨_, hclose, .failed deadlines⟩
  | outOfRange => exact absurd rfl hrange

/-! ## From the head to the end -/

/-- A notice that a slot is ready that waits to be written: the head still says what the flag
says, and the loop goes by it. -/
theorem Kept.honoured {hs : List Call} (h : Kept v r hs) (hr : r.Disciplined none)
    (hbalanced : r.Balanced config [] g) {n : Notice} {slot : Slot} (hhang : n.hangUp = false)
    (hready : n.writable = true) (hslot : r.slots.get? n.key = some slot)
    (hawaits : slot.awaits = some .write) (now : Nat) :
    ∃ (c : Connection) (said : Receipt.Summary) (r' : EventLoop),
      r.connections[slot.id]? = some c ∧ Receipt.announced? c.writer.head = some said ∧
      (said.keepAlive = true ↔ c.keepAlive = true) ∧
      (∀ k, c.write.1 = .done k → ∃ (earlier : Bytes) (answer : Http.Response),
        c.writer.head = answer.head ∧ c.write.2.stream.written = earlier ++ answer.encode) ∧
      r.heed now n = some r' ∧
      Honoured r n.key slot c.write.2 said.keepAlive c.write.1 r' := by
  obtain ⟨c, hc⟩ : ∃ c, r.connections[slot.id]? = some c :=
    ⟨_, List.getElem?_eq_getElem (hr.known hslot)⟩
  have hexpects : r.Expects slot.id .write :=
    Or.inl ⟨n.key, slot, .write, hslot, rfl, hawaits, rfl⟩
  cases h.ready slot.id .write c hexpects hc with
  | @write answer hstaged hleft =>
    have hhead : c.writer.head = answer.head := hstaged.sends.head_eq
    have hrange : c.write.1 ≠ .outOfRange := by
      intro hout
      have hwritten := hstaged.write hleft slot.id
      rw [hout] at hwritten
      cases hwritten
    have hwrite : c.write = (c.write.1, c.write.2) := rfl
    obtain ⟨r', htransmit, hhonoured⟩ := hbalanced.honoured hr hslot
      (hr.isAway_eq_false hslot hawaits) hc hwrite hrange now
    have hflag : c.write.2.keepAlive = answer.keepAlive := hstaged.keepAlive_eq
    rw [hflag] at hhonoured
    have hsaid := Receipt.announced?_head answer
    rw [← hhead] at hsaid
    refine ⟨c, ⟨answer.status.code, answer.status.reason, answer.keepAlive,
      answer.body.bytes.length⟩, r', hc, hsaid, ?_, fun k hdone => ?_, ?_, hhonoured⟩
    · rw [hstaged.keepAlive_eq]
    · obtain ⟨earlier, hends⟩ := hstaged.ends_of_done hleft hdone
      exact ⟨earlier, answer, hhead, hends⟩
    · simp only [EventLoop.heed, hslot, hhang, hawaits, hready, Bool.false_eq_true, if_false,
        if_true]
      exact htransmit

/-- **What is announced is done.**  Whenever processing puts a response on its way, the head says
what the flag of the connection says; and it says that the connection stays only after a request
that is complete and asks for it, with one of three codes, and never after a bad request or a
fault.  The connections of a server are among those for which this holds, and one that a worker is
about to process has not answered since it was reset, so that what it has read begins with the
message that asks.

When the loop writes to a connection, the head and the flag still agree, the client has received
all of the response if all was sent, and the connection starts anew and waits to be read if the
head has said that it stays, and is closed as completed otherwise. -/
theorem does_what_it_announced :
    (∀ (v : Service) (answered : Bool) (c c' : Connection) (session session' : Store.Session),
      Connection.Reached v.dialect answered c → c.process v session = (.write, c', session') →
      ∃ said, Connection.Announcement v answered c c' said) ∧
    ∀ {config : Config} {service : Service} {credentials : Store.Credentials}
      {storage : Store.Storage} {handles : List Store.Backend} {r₀ r : EventLoop},
      start config service credentials storage handles = .ok r₀ → Reachable r₀ r →
      AllReached service r.connections ∧
      (∀ (worker : Nat) (t : Ticket) (c : Connection),
        r.pool.workers[worker]? = some (.handling ⟨t, none⟩) → r.connections[t.id]? = some c →
        Connection.Reached service.dialect false c) ∧
      ∀ now n batch slot, r.batch = n :: batch → n.hangUp = false → n.writable = true →
        r.slots.get? n.key = some slot → slot.awaits = some .write →
        ∃ (c : Connection) (said : Receipt.Summary) (r' : EventLoop),
          r.connections[slot.id]? = some c ∧ Receipt.announced? c.writer.head = some said ∧
          (said.keepAlive = true ↔ c.keepAlive = true) ∧
          (∀ k, c.write.1 = .done k → ∃ (earlier : Bytes) (answer : Http.Response),
            c.writer.head = answer.head ∧ c.write.2.stream.written = earlier ++ answer.encode) ∧
          r.step (.heed now) = some r' ∧
          Honoured { r with batch } n.key slot c.write.2 said.keepAlive c.write.1 r' := by
  refine ⟨fun v answered c c' session session' hreached hprocess =>
    Connection.Reached.announcement hreached hprocess, ?_⟩
  intro config service credentials storage handles r₀ r hstart hreach
  obtain ⟨hs, hkept, hfollowed⟩ := exists_followed_of_reachable hstart hreach
  refine ⟨hfollowed.allReached, fun _ _ _ hphase hc => hfollowed.unanswered hkept hphase hc, ?_⟩
  intro now n batch slot hbatch hhang hready hslot hawaits
  obtain ⟨hr, g, hbalanced⟩ := balanced_of_reachable hstart hreach
  have hkept : Kept service { r with batch } hs :=
    hkept.quiet (.of_demands rfl rfl rfl fun _ hm => hm)
  have hrest : Balanced config [] g { r with batch } := hbalanced.congr rfl rfl rfl rfl
  have hdisciplined : Disciplined none { r with batch } :=
    hr.congr rfl (fun _ => rfl) (Nat.le_refl _)
  obtain ⟨c, said, r', hc, hsaid, hflag, hends, hheed, hhonoured⟩ :=
    hkept.honoured hdisciplined hrest hhang hready hslot hawaits now
  refine ⟨c, said, r', hc, hsaid, hflag, hends, ?_, hhonoured⟩
  simp only [step, hbatch]
  exact hheed

/-! ## A client that asks to stay -/

theorem process_askingClient :
    askingClient.process fileless ⟨{}, .memory, {}⟩
        = (.write, answeredClient, ⟨{}, .memory, {}⟩) ∧ answeredClient.keepAlive = true := by
  have hall : (askingClient.process fileless ⟨{}, .memory, {}⟩).1 = .write ∧
      (askingClient.process fileless ⟨{}, .memory, {}⟩).2.2 = ⟨{}, .memory, {}⟩ ∧
      answeredClient.keepAlive = true := by decide +kernel
  obtain ⟨hneed, hsession, hkeep⟩ := hall
  exact ⟨Prod.ext hneed (Prod.ext rfl hsession), hkeep⟩

/-- A client asks for a page that is not there and to stay.  It is told that it may, and when it
has the answer its slot waits for its next request. -/
theorem does_what_it_announced_of_request_to_stay :
    (∃ said, Connection.Announcement fileless false askingClient answeredClient said) ∧
    ∃ r said r', Reachable { bare with service := fileless } r ∧
      r.connections[0]? = some answeredClient ∧
      Receipt.announced? answeredClient.writer.head = some said ∧ said.keepAlive = true ∧
      r.step (.heed 2) = some r' ∧ r'.connections[0]? = some answeredClient.write.2.reset ∧
      (∃ slot, r'.slots.get? 0 = some slot ∧ slot.awaits = some .read) ∧ r'.closed = [] := by
  obtain ⟨hprocess, hkeep⟩ := process_askingClient
  have hstart : start {} fileless {} {} [.memory] = .ok { bare with service := fileless } := rfl
  -- a worker has the client in its hands, and later the socket can be written
  have hheld : (({ bare with service := fileless } : EventLoop).run (exchange.take 7)).map
      (fun r => (r.pool.workers[0]?, r.connections[0]?))
        = some (some (.handling ⟨⟨0, 0⟩, none⟩), some askingClient) := by decide +kernel
  have hready : (({ bare with service := fileless } : EventLoop).run (exchange.take 11)).map
      (fun r => (r.connections[0]?, r.slots.get? 0, r.batch))
        = some (some answeredClient, some ⟨0, some ⟨0, 0⟩, some .write, false, none⟩,
            [{ key := 0, source := 0, writable := true }]) := by decide +kernel
  have hundisturbed : (({ bare with service := fileless } : EventLoop).run (exchange.take 11)).map
      (fun r => (r.unwatched, r.closed)) = some ([], []) := by decide +kernel
  have hdone : answeredClient.write.1 = .done 119 := by decide +kernel
  obtain ⟨r₁, hrun₁, hstate₁⟩ := Option.map_eq_some_iff.mp hheld
  obtain ⟨hphase, hasking⟩ := Prod.mk.inj hstate₁
  obtain ⟨-, hunanswered, -⟩ := does_what_it_announced.2 hstart ⟨_, hrun₁⟩
  have hreached : Connection.Reached fileless.dialect false askingClient :=
    hunanswered 0 ⟨0, 0⟩ askingClient hphase hasking
  obtain ⟨r, hrun, hstate⟩ := Option.map_eq_some_iff.mp hready
  obtain ⟨hc, hstate⟩ := Prod.mk.inj hstate
  obtain ⟨hslot, hbatch⟩ := Prod.mk.inj hstate
  rw [hrun] at hundisturbed
  obtain ⟨hunwatched, hclosed⟩ := Prod.mk.inj (Option.some.inj hundisturbed)
  have hreach : Reachable { bare with service := fileless } r := ⟨_, hrun⟩
  obtain ⟨-, -, hall⟩ := does_what_it_announced.2 hstart hreach
  obtain ⟨c, said, r', hc', hsaid, hflag, -, hstep, hhonoured⟩ :=
    hall 2 _ _ _ hbatch rfl rfl hslot rfl
  obtain rfl := Option.some.inj (hc.symm.trans hc')
  have hstays : said.keepAlive = true := hflag.mpr hkeep
  refine ⟨does_what_it_announced.1 _ _ _ _ _ _ hreached hprocess, r, said, r', hreach, hc, hsaid,
    hstays, hstep, ?_⟩
  rw [hstays, hdone] at hhonoured
  cases hhonoured with
  | stays deadlines hwatched =>
    refine ⟨?_, ⟨⟨0, some ⟨0, 0⟩, some .read, false, none⟩, ?_, rfl⟩, hclosed⟩
    · exact List.getElem?_set_self (List.getElem?_eq_some_iff.mp hc).1
    · show (r.slots.modify 0 _).get? 0 = _
      rw [KeyTable.get?_modify, if_pos rfl, hslot]
      rfl
  | unwatched deadlines hmem =>
    have hnone : (0 : Nat) ∈ r.unwatched := hmem
    rw [hunwatched] at hnone
    cases hnone

end EventLoop
end Server
end SiteServer
