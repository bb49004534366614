import SiteServer.Http.Call
import SiteServer.Proofs.Http.Sending
import SiteServer.Proofs.Http.Splitting

/-!
# Requests and responses in turn

A connection is read and processed until there is a response, and then written until all
of it was sent, after which it is reset or closed.  `Call.Proper` says when a call has its
place in this order, and `Orderly` that all calls have had it.

* `Reading`: no response is on its way, and the parser has to go on with what was read since
  the connection was reset.
* `Staged`: a response is on its way, and so much of it was sent.

`Reading.read`, `Reading.process`, `Staged.write` and `Staged.reset` are the four steps of
an exchange.  In each of them all octets that the client has accepted so far are the
beginning of all responses so far (`Accounted`).
-/

namespace SiteServer

/-! ## What a read takes from its stream -/

namespace Stream

variable {s s' : Stream} {room : Nat}

theorem payload_of_read {bytes : Bytes} (h : s.read room = (.ok bytes, s')) :
    s.payload = bytes ++ s'.payload ∧ s'.written = s.written := by
  unfold read at h
  split at h
  · cases h
  · cases h
  case h_3 data rest harriving =>
    unfold payload
    rw [harriving, List.flatMap_cons, Delivery.octets]
    split at h
    · cases h
      exact ⟨rfl, rfl⟩
    · cases h
      refine ⟨?_, rfl⟩
      rw [List.flatMap_cons, Delivery.octets, ← List.append_assoc, List.take_append_drop]

theorem payload_of_read_error {f : StreamFault} (h : s.read room = (.error f, s')) :
    s.payload = s'.payload ∧ s'.written = s.written := by
  unfold read at h
  split at h
  · cases h
    exact ⟨rfl, rfl⟩
  case h_2 rest harriving =>
    cases h
    unfold payload
    rw [harriving, List.flatMap_cons, Delivery.octets, List.nil_append]
    exact ⟨rfl, rfl⟩
  · split at h <;> cases h

end Stream

namespace Http
namespace ReceiveBuffer

variable {b b' : ReceiveBuffer} {s s' : Stream}

theorem Sound.append (h : b.Sound) {bytes : Bytes} (hroom : bytes.length ≤ b.remaining) :
    (b.append bytes).Sound := by
  have hextend := h.extend bytes
  rwa [extend_eq_append, List.take_of_length_le hroom] at hextend

theorem fill_eq {result : Except StreamFault Fill} (h : b.fill s = (result, b', s')) :
    ∃ taken, b' = b.append taken ∧ taken.length ≤ b.remaining ∧
      s.payload = taken ++ s'.payload ∧ s'.written = s.written := by
  rcases fill_cases h with ⟨-, -, rfl, rfl⟩ | ⟨-, ⟨f, hread, -, rfl⟩ | ⟨hread, -, rfl⟩ |
    ⟨x, xs, hread, -, rfl⟩⟩
  · exact ⟨[], (append_nil b').symm, Nat.zero_le _, rfl, rfl⟩
  · exact ⟨[], (append_nil b').symm, Nat.zero_le _, Stream.payload_of_read_error hread⟩
  · exact ⟨[], (append_nil b').symm, Nat.zero_le _, Stream.payload_of_read hread⟩
  · exact ⟨x :: xs, rfl, Stream.length_le_of_read hread, Stream.payload_of_read hread⟩

end ReceiveBuffer

namespace Connection

open ReceiveBuffer

theorem readLoop_of_stop {b b' : ReceiveBuffer} {s s' : Stream} {total : Nat}
    {result : Except StreamFault Fill} {answer : Except StreamFault Intake}
    (hfill : b.fill s = (result, b', s')) (hturn : readTurn total result = .stop answer) :
    readLoop b s total = (answer, b', s') := by
  rw [readLoop]
  split
  rename_i hfill'
  rw [hfill] at hfill'
  cases hfill'
  split
  · rename_i hturn'
    rw [hturn] at hturn'
    cases hturn'
    rfl
  · rename_i hturn'
    rw [hturn] at hturn'
    cases hturn'

theorem readLoop_of_again {b b' : ReceiveBuffer} {s s' : Stream} {total total' : Nat}
    {result : Except StreamFault Fill} (hfill : b.fill s = (result, b', s'))
    (hturn : readTurn total result = .again total') :
    readLoop b s total = readLoop b' s' total' := by
  rw [readLoop]
  split
  rename_i hfill'
  rw [hfill] at hfill'
  cases hfill'
  split
  · rename_i hturn'
    rw [hturn] at hturn'
    cases hturn'
  · rename_i hturn'
    rw [hturn] at hturn'
    cases hturn'
    rfl

/-- Reading moves octets from the stream to the buffer, as far as there is room. -/
theorem readLoop_eq (b : ReceiveBuffer) (s : Stream) (total : Nat) :
    ∃ taken, (readLoop b s total).2.1 = b.append taken ∧ taken.length ≤ b.remaining ∧
      s.payload = taken ++ (readLoop b s total).2.2.payload ∧
      (readLoop b s total).2.2.written = s.written := by
  induction b, s, total using readLoop.induct with
  | case1 b s total result b' s' hfill answer hturn =>
    rw [readLoop_of_stop hfill hturn]
    exact fill_eq hfill
  | case2 b s total result b' s' hfill total' hturn ih =>
    rw [readLoop_of_again hfill hturn]
    obtain ⟨taken, rfl, hroom, hpayload, hwritten⟩ := fill_eq hfill
    obtain ⟨more, hbuffer, hroom', hpayload', hwritten'⟩ := ih
    refine ⟨taken ++ more, ?_, ?_, ?_, hwritten'.trans hwritten⟩
    · rw [hbuffer, append_append]
    · simp only [remaining, size, append, List.length_append] at hroom hroom' ⊢
      omega
    · rw [hpayload, hpayload', List.append_assoc]

theorem read_eq (c : Connection) :
    ∃ taken stream, c.read.2 = { c with buffer := c.buffer.append taken, stream } ∧
      taken.length ≤ c.buffer.remaining ∧ c.stream.payload = taken ++ stream.payload ∧
      stream.written = c.stream.written := by
  obtain ⟨taken, hbuffer, hroom, hpayload, hwritten⟩ := readLoop_eq c.buffer c.stream 0
  refine ⟨taken, _, ?_, hroom, hpayload, hwritten⟩
  rw [← hbuffer]
  rfl

end Connection

/-! ## Sending, whatever the stream does -/

namespace Writer

variable {w : Writer} {r : Response} {out : Bytes}

theorem Sends.length_eq (h : Sends r w out) : out.length = w.sent := by
  have htotal := h.total_eq
  rw [h.out_eq, List.length_take]
  omega

end Writer

/-- No response is empty. -/
theorem Response.encode_ne_nil (r : Response) : r.encode ≠ [] := by
  have htext : ∃ rest, r.headText.toList = 'H' :: rest := by
    unfold headText
    simp only [String.toList_append]
    exact ⟨_, rfl⟩
  obtain ⟨rest, hrest⟩ := htext
  have hfirst : Utf8.encodeChar 'H' = [72] := by decide
  rw [encode, head, Utf8.encode, hrest, Utf8.encodeChars_cons, hfirst]
  simp

namespace Parser

variable {d : Dialect} {p p' : Parser} {b b' : ReceiveBuffer}

/-! ## Parsers that go on -/

/-- A parser goes on with what more comes as a fresh one does that gets it together with all
that is in the buffer. -/
structure Resumes (d : Dialect) (p : Parser) (b : ReceiveBuffer) : Prop where
  sound : b.Sound
  onward : ∀ more, parse d p (b.append more)
    = parse d fresh ((ReceiveBuffer.ofCapacity b.capacity).append (b.data ++ more))

theorem resumes_fresh (d : Dialect) (capacity : Nat) :
    Resumes d fresh (.ofCapacity capacity) :=
  ⟨ReceiveBuffer.sound_ofCapacity capacity, fun _ => rfl⟩

theorem Resumes.append (h : Resumes d p b) {bytes : Bytes} (hroom : bytes.length ≤ b.remaining) :
    Resumes d p (b.append bytes) := by
  refine ⟨h.sound.append hroom, fun more => ?_⟩
  have honward := h.onward (bytes ++ more)
  rw [← ReceiveBuffer.append_append, ← List.append_assoc] at honward
  exact honward

/-- What is there is read as if it had come at once. -/
theorem Resumes.parse_eq_whole (h : Resumes d p b) :
    parse d p b = whole d b.capacity b.data := by
  have honward := h.onward []
  have hfit : b.data.length ≤ (ReceiveBuffer.ofCapacity b.capacity).remaining := h.sound.size_le
  rw [ReceiveBuffer.append_nil, List.append_nil] at honward
  rw [honward, whole, ReceiveBuffer.extend_eq_append, List.take_of_length_le hfit]

/-- A parser that needs more octets may go on from where it stands. -/
theorem Resumes.of_incomplete (h : Resumes d p b)
    (hparse : parse d p b = (.ok .incomplete, p', b')) : Resumes d p' b' := by
  obtain ⟨honward, hsound⟩ := parse_onward (d := d) (p := p) h.sound
  rw [hparse] at honward hsound
  refine ⟨hsound, fun more => ?_⟩
  have happend := parse_append_of_incomplete (d := d) (p := p) h.sound more (by rw [hparse])
  rw [hparse, h.onward more] at happend
  rw [honward.data_eq, honward.capacity_eq]
  exact happend.symm

/-! ## What the parser never says -/

theorem requestLine_ne_invalidState (p : Parser) (d : Dialect) (line : List Char) :
    (p.requestLine d line).1 ≠ .error .invalidState := by
  unfold requestLine
  split
  · split
    · simp
    · simp only
      split
      · split <;> simp
      · simp
  · simp

theorem headerLine_ne_invalidState (p : Parser) (line : List Char) (available : Nat) :
    (p.headerLine line available).1 ≠ .error .invalidState := by
  unfold headerLine
  repeat' split
  all_goals simp

/-- Nothing is read as a line where a body is due. -/
theorem lineTurn_ne_invalidState (hp : p.state ≠ .body) (d : Dialect) (line : Bytes)
    (b : ReceiveBuffer) : (lineTurn p d line b).1 ≠ .stop (.error .invalidState) := by
  unfold lineTurn
  split
  · simp
  case h_2 text _ =>
    split
    · have hnever := requestLine_ne_invalidState p d text
      split
      case h_1 e _ hline =>
        rw [hline] at hnever
        simpa using hnever
      · simp
    · have hnever := headerLine_ne_invalidState p text (b.capacity - b.checked)
      split
      case h_1 e _ hline =>
        rw [hline] at hnever
        simpa using hnever
      all_goals simp
    case h_3 hstate => exact absurd hstate hp

/-- The parser never loses its way. -/
theorem parse_ne_invalidState (d : Dialect) (p : Parser) (b : ReceiveBuffer) :
    (parse d p b).1 ≠ .error .invalidState := by
  fun_induction parse d p b with
  | case1 p b answer p' b' hturn =>
    unfold advance at hturn
    split at hturn
    · unfold bodyTurn at hturn
      simp only at hturn
      split at hturn <;>
      · cases hturn
        simp
    case isFalse hstate =>
      split at hturn
      · cases hturn
        simp
      · cases hturn
        simp
      case h_3 start stop b₁ hline =>
        have hnever := lineTurn_ne_invalidState hstate d (b₁.beginLine.slice start stop)
          b₁.beginLine
        cases hline' : lineTurn p d (b₁.beginLine.slice start stop) b₁.beginLine with
        | mk turn q =>
          rw [hline'] at hnever
          simp only [hline'] at hturn
          cases hturn
          simpa using hnever
  | case2 p b p' b' hturn ih => exact ih

end Parser

namespace Call

variable {v : Service} {calls : List Call} {call : Call}

/-! ## One call more -/

theorem answers_concat (v : Service) (calls : List Call) (call : Call) :
    answers v (calls ++ [call]) = answers v calls ++ (call.answer? v).toList := by
  rw [answers, List.filterMap_append]
  cases h : call.answer? v <;> simp [answers, h]

theorem sinceReset_concat (h : call.isReset = false) :
    sinceReset (calls ++ [call]) = sinceReset calls ++ [call] := by
  simp [sinceReset, h]

theorem sinceReset_concat_reset (h : call.isReset = true) : sinceReset (calls ++ [call]) = [] := by
  simp [sinceReset, h]

theorem flatMap_concat {β : Type} (f : Call → List β) (calls : List Call) (call : Call) :
    (calls ++ [call]).flatMap f = calls.flatMap f ++ f call := by
  rw [List.flatMap_append, List.flatMap_singleton]

theorem answers_concat_of_none (h : call.answer? v = none) :
    answers v (calls ++ [call]) = answers v calls := by
  rw [answers_concat, h]
  exact List.append_nil _

theorem flatMap_sent_concat_of_nil (h : call.sent = []) :
    (calls ++ [call]).flatMap Call.sent = calls.flatMap Call.sent := by
  rw [flatMap_concat, h, List.append_nil]

/-! ## Calls in their order -/

/-- Whether a call has its place behind those made earlier on the connection.

* A connection is created once, and before anything else is done to it.
* A read takes what arrives at the connection's own socket.
* A connection is processed while nothing is on its way and no request was completed or
  refused since it was reset.  The answer is what a fresh parser makes of everything read
  since then.
* A connection is written while there is something left of the one response that was put
  on its way since it was reset, and what is left is offered.
* A connection is reset once the client has accepted this response, the whole of it. -/
def Proper (v : Service) (earlier : List Call) (c : Call) : Prop :=
  match c.kind with
  | .create => earlier = []
  | .read => c.before.stream.payload = c.received ++ (c.after v).stream.payload
  | .process _ =>
    c.before.writer.isIdle = true ∧
      answers v (sinceReset earlier) = [] ∧
      c.before.buffer.data = (sinceReset earlier).flatMap received ∧
      (c.before.parser.parse v.dialect c.before.buffer).1
        = (Parser.whole v.dialect c.before.buffer.capacity c.before.buffer.data).1 ∧
      (c.before.parser.parse v.dialect c.before.buffer).1 ≠ .error .invalidState
  | .write =>
    c.before.writer.isIdle = false ∧
      ∃ answer, answers v (sinceReset earlier) = [answer] ∧
        (sinceReset earlier).flatMap Call.sent <+: answer.encode ∧
        c.before.writer.offer?
          = some (answer.encode.drop ((sinceReset earlier).flatMap Call.sent).length)
  | .reset =>
    c.before.writer.isIdle = true ∧
      ∃ answer, answers v (sinceReset earlier) = [answer] ∧ answer.keepAlive = true ∧
        (sinceReset earlier).flatMap Call.sent = answer.encode

/-- Calls each of which has its place behind those before it. -/
def Orderly (v : Service) (calls : List Call) : Prop :=
  ∀ earlier call later, calls = earlier ++ call :: later → call.Proper v earlier

theorem Orderly.concat (h : Orderly v calls) (hcall : call.Proper v calls) :
    Orderly v (calls ++ [call]) := by
  intro earlier other later heq
  rcases List.eq_nil_or_concat later with rfl | ⟨init, last, rfl⟩
  · obtain ⟨rfl, hlast⟩ := List.append_inj' heq rfl
    rw [← List.head_eq_of_cons_eq hlast]
    exact hcall
  · rw [List.concat_eq_append, ← List.cons_append, ← List.append_assoc] at heq
    exact h earlier other init (List.append_inj' heq rfl).1

end Call

namespace Connection

open Call

variable {v : Service} {calls : List Call} {c : Connection}

/-! ## Where an exchange stands -/

/-- The calls on a connection account for everything that its client has accepted: it is the
beginning of all responses, one after another, and after a response that closes the
connection there is none. -/
structure Accounted (v : Service) (calls : List Call) (c : Connection) : Prop where
  orderly : Orderly v calls
  created : ∃ first rest, calls = first :: rest ∧ first.kind = .create ∧
    c.stream.written = first.before.stream.written ++ calls.flatMap Call.sent
  sent_le : calls.flatMap Call.sent <+: (answers v calls).flatMap Response.encode
  keepAlive : ∀ r ∈ (answers v calls).dropLast, r.keepAlive = true

/-- Nothing is on its way, and the parser has to go on with what was read since the
connection was reset. -/
structure Reading (v : Service) (calls : List Call) (c : Connection) : Prop where
  accounted : Accounted v calls c
  idle : c.writer.toSend = 0
  unanswered : answers v (sinceReset calls) = []
  unsent : (sinceReset calls).flatMap Call.sent = []
  settled : calls.flatMap Call.sent = (answers v calls).flatMap Response.encode
  keepAlive : ∀ r ∈ answers v calls, r.keepAlive = true
  sound : c.buffer.Sound
  data_eq : c.buffer.data = (sinceReset calls).flatMap received
  resumes : ∀ more, c.parser.parse v.dialect (c.buffer.append more)
    = Parser.fresh.parse v.dialect
        ((ReceiveBuffer.ofCapacity c.buffer.capacity).append (c.buffer.data ++ more))

/-- A response is on its way, and so much of it was sent. -/
structure Staged (v : Service) (calls : List Call) (c : Connection) (answer : Response) :
    Prop where
  accounted : Accounted v calls c
  answers_eq : answers v (sinceReset calls) = [answer]
  keepAlive_eq : c.keepAlive = answer.keepAlive
  sends : c.writer.Sends answer ((sinceReset calls).flatMap Call.sent)
  older : ∃ older, answers v calls = older ++ [answer] ∧
    (∀ r ∈ older, r.keepAlive = true) ∧
    calls.flatMap Call.sent
      = older.flatMap Response.encode ++ (sinceReset calls).flatMap Call.sent

/-- What a connection is like that needs to be read, written or closed. -/
inductive Ready (v : Service) (calls : List Call) (c : Connection) : Need → Prop where
  | read (reading : Reading v calls c) : Ready v calls c .read
  | write {answer : Response} (staged : Staged v calls c answer) (left : c.writer.toSend ≠ 0) :
    Ready v calls c .write
  | close (accounted : Accounted v calls c) : Ready v calls c .close

theorem reading_of_accepted (v : Service) (number id : Nat) (peer : Net.SocketAddress)
    (stream : Stream) (readCapacity writeCapacity : Nat) :
    Reading v [⟨number, .create, accepted id peer stream readCapacity writeCapacity⟩]
      (accepted id peer stream readCapacity writeCapacity) where
  accounted :=
    { orderly := by
        have hempty : Orderly v [] := by
          intro earlier call later heq
          simp at heq
        have hfirst : (⟨number, .create, accepted id peer stream readCapacity writeCapacity⟩ :
            Call).Proper v [] := rfl
        exact hempty.concat hfirst
      created := ⟨_, [], rfl, rfl, (List.append_nil _).symm⟩
      sent_le := List.prefix_refl _
      keepAlive := List.forall_mem_nil _ }
  idle := rfl
  unanswered := rfl
  unsent := rfl
  settled := rfl
  keepAlive := List.forall_mem_nil _
  sound := ReceiveBuffer.sound_ofCapacity readCapacity
  data_eq := rfl
  resumes := fun _ => rfl

theorem Accounted.withStream (h : Accounted v calls c) {stream : Stream}
    (hwritten : stream.written = c.stream.written) :
    Accounted v calls { c with stream } where
  orderly := h.orderly
  created := by
    rw [hwritten]
    exact h.created
  sent_le := h.sent_le
  keepAlive := h.keepAlive

theorem Reading.withStream (h : Reading v calls c) {stream : Stream}
    (hwritten : stream.written = c.stream.written) :
    Reading v calls { c with stream } :=
  ⟨h.accounted.withStream hwritten, h.idle, h.unanswered, h.unsent, h.settled, h.keepAlive,
    h.sound, h.data_eq, h.resumes⟩

theorem Staged.withStream {answer : Response} (h : Staged v calls c answer) {stream : Stream}
    (hwritten : stream.written = c.stream.written) :
    Staged v calls { c with stream } answer :=
  ⟨h.accounted.withStream hwritten, h.answers_eq, h.keepAlive_eq, h.sends, h.older⟩

theorem Ready.withStream {need : Need} (h : Ready v calls c need) {stream : Stream}
    (hwritten : stream.written = c.stream.written) : Ready v calls { c with stream } need := by
  cases h with
  | read hreading => exact .read (hreading.withStream hwritten)
  | write hstaged hleft => exact .write (hstaged.withStream hwritten) hleft
  | close haccounted => exact .close (haccounted.withStream hwritten)

theorem Ready.accounted {need : Need} (h : Ready v calls c need) : Accounted v calls c := by
  cases h with
  | read hreading => exact hreading.accounted
  | write hstaged hleft => exact hstaged.accounted
  | close haccounted => exact haccounted

theorem Accounted.concat (h : Accounted v calls c) {call : Call} {c' : Connection}
    (hcall : call.Proper v calls)
    (hwritten : c'.stream.written = c.stream.written ++ call.sent)
    (hsent : (calls ++ [call]).flatMap Call.sent
      <+: (answers v (calls ++ [call])).flatMap Response.encode)
    (hkeep : ∀ r ∈ (answers v (calls ++ [call])).dropLast, r.keepAlive = true) :
    Accounted v (calls ++ [call]) c' where
  orderly := h.orderly.concat hcall
  created := by
    obtain ⟨first, rest, rfl, hkind, hall⟩ := h.created
    refine ⟨first, rest ++ [call], rfl, hkind, ?_⟩
    rw [hwritten, hall, flatMap_concat, List.append_assoc]
  sent_le := hsent
  keepAlive := hkeep

/-! ## Reading -/

theorem Reading.parser_resumes (h : Reading v calls c) :
    Parser.Resumes v.dialect c.parser c.buffer :=
  ⟨h.sound, h.resumes⟩

/-- After a call that answers nothing and sends nothing a connection still has to be read. -/
theorem Reading.concat (h : Reading v calls c) {call : Call} {c' : Connection}
    (hcall : call.Proper v calls) (hanswer : call.answer? v = none) (hcallSent : call.sent = [])
    (hreset : call.isReset = false) (hwritten : c'.stream.written = c.stream.written)
    (hidle : c'.writer.toSend = 0) (hsound : c'.buffer.Sound)
    (hdata : c'.buffer.data = c.buffer.data ++ call.received)
    (hresumes : ∀ more, c'.parser.parse v.dialect (c'.buffer.append more)
      = Parser.fresh.parse v.dialect
          ((ReceiveBuffer.ofCapacity c'.buffer.capacity).append (c'.buffer.data ++ more))) :
    Reading v (calls ++ [call]) c' := by
  have hanswers : answers v (calls ++ [call]) = answers v calls := answers_concat_of_none hanswer
  have hsent : (calls ++ [call]).flatMap Call.sent = calls.flatMap Call.sent :=
    flatMap_sent_concat_of_nil hcallSent
  have hsince : sinceReset (calls ++ [call]) = sinceReset calls ++ [call] :=
    sinceReset_concat hreset
  refine ⟨h.accounted.concat hcall ?_ ?_ ?_, hidle, ?_, ?_, ?_, ?_, hsound, ?_, hresumes⟩
  · rw [hwritten, hcallSent, List.append_nil]
  · rw [hsent, hanswers]
    exact h.accounted.sent_le
  · rw [hanswers]
    exact h.accounted.keepAlive
  · rw [hsince, answers_concat_of_none hanswer, h.unanswered]
  · rw [hsince, flatMap_sent_concat_of_nil hcallSent, h.unsent]
  · rw [hsent, hanswers]
    exact h.settled
  · rw [hanswers]
    exact h.keepAlive
  · rw [hsince, flatMap_concat, ← h.data_eq]
    exact hdata

/-- A read leaves more to be parsed. -/
theorem Reading.read (h : Reading v calls c) (number : Nat) :
    Reading v (calls ++ [⟨number, .read, c⟩]) c.read.2 := by
  obtain ⟨taken, stream, hread, hroom, hpayload, hwritten⟩ := c.read_eq
  have hreceived : (⟨number, .read, c⟩ : Call).received = taken := by
    unfold received
    rw [hread]
    exact List.drop_left
  have hcall : (⟨number, .read, c⟩ : Call).Proper v calls := by
    show c.stream.payload = _ ++ c.read.2.stream.payload
    rw [hreceived, hread]
    exact hpayload
  rw [hread]
  refine h.concat hcall rfl rfl rfl hwritten h.idle (h.sound.append hroom) ?_ fun more => ?_
  · rw [hreceived]
    rfl
  · exact (h.parser_resumes.append hroom).onward more

/-! ## Processing -/

theorem Reading.proper_process (h : Reading v calls c) (number : Nat)
    (session : Store.Session) : (⟨number, .process session, c⟩ : Call).Proper v calls :=
  ⟨by simp [Writer.isIdle, h.idle], h.unanswered, h.data_eq,
    by rw [h.parser_resumes.parse_eq_whole],
    Parser.parse_ne_invalidState _ _ _⟩

/-- A response that was put on its way is the next after those that were sent. -/
theorem Reading.reply (h : Reading v calls c) {call : Call} {answer : Response}
    (hcall : call.Proper v calls) (hanswer : call.answer? v = some answer)
    (hcallSent : call.sent = []) (hreset : call.isReset = false) (parser : Parser)
    (buffer : ReceiveBuffer) :
    let result := ({ c with parser, buffer } : Connection).reply answer
    (result.1 = .write ∧ Staged v (calls ++ [call]) result.2 answer ∧
        result.2.writer.toSend ≠ 0) ∨
      (result.1 = .close ∧ Accounted v (calls ++ [call]) result.2) := by
  intro result
  have hanswers : answers v (calls ++ [call]) = answers v calls ++ [answer] := by
    rw [answers_concat, hanswer]
    rfl
  have hsent : (calls ++ [call]).flatMap Call.sent = calls.flatMap Call.sent :=
    flatMap_sent_concat_of_nil hcallSent
  have hsince : sinceReset (calls ++ [call]) = sinceReset calls ++ [call] :=
    sinceReset_concat hreset
  have haccounted : ∀ writer keepAlive,
      Accounted v (calls ++ [call]) { c with parser, buffer, writer, keepAlive } := by
    intro writer keepAlive
    refine h.accounted.concat hcall ?_ ?_ ?_
    · rw [hcallSent, List.append_nil]
    · rw [hsent, hanswers, h.settled, List.flatMap_append]
      exact List.prefix_append _ _
    · rw [hanswers, List.dropLast_concat]
      exact h.keepAlive
  have hunsent : (sinceReset (calls ++ [call])).flatMap Call.sent = [] := by
    rw [hsince, flatMap_sent_concat_of_nil hcallSent, h.unsent]
  cases hcompose : c.writer.compose answer with
  | mk outcome writer =>
    cases outcome with
    | error e =>
      have hresult : result
          = (.close, { c with parser, buffer, writer, keepAlive := answer.keepAlive }) := by
        simp only [result, Connection.reply, hcompose]
      rw [hresult]
      exact Or.inr ⟨rfl, haccounted _ _⟩
    | ok u =>
      have hresult : result
          = (.write, { c with parser, buffer, writer, keepAlive := answer.keepAlive }) := by
        simp only [result, Connection.reply, hcompose]
      have hsends := Writer.sends_of_compose hcompose
      have hleft : writer.toSend ≠ 0 := by
        intro hnothing
        exact answer.encode_ne_nil (hsends.out_eq_encode_iff.mpr hnothing).symm
      rw [hresult]
      refine Or.inl ⟨rfl, ⟨haccounted _ _, ?_, rfl, ?_, answers v calls, hanswers, h.keepAlive, ?_⟩,
        hleft⟩
      · rw [hsince, answers_concat, h.unanswered, hanswer]
        rfl
      · rw [hunsent]
        exact hsends
      · rw [hsent, hunsent, List.append_nil]
        exact h.settled

/-- Processing waits for more to be read, or comes up with the next response. -/
theorem Reading.process (h : Reading v calls c) (number : Nat) (session : Store.Session) :
    Ready v (calls ++ [⟨number, .process session, c⟩]) (c.process v session).2.1
      (c.process v session).1 := by
  have hcall := h.proper_process number session
  have hreply := fun {answer : Response} (hanswer : Call.answer? v _ = some answer) =>
    h.reply hcall hanswer rfl rfl
  cases hparse : c.parser.parse v.dialect c.buffer with
  | mk result rest =>
    obtain ⟨parser, buffer⟩ := rest
    -- a response that was found is put on its way
    have hcases : ∀ (answer : Response),
        (⟨number, .process session, c⟩ : Call).answer? v = some answer →
        (c.process v session).1 = (({ c with parser, buffer } : Connection).reply answer).1 →
        (c.process v session).2.1 = (({ c with parser, buffer } : Connection).reply answer).2 →
        Ready v (calls ++ [⟨number, .process session, c⟩]) (c.process v session).2.1
          (c.process v session).1 := by
      intro answer hanswer hnext hafter
      rw [hnext, hafter]
      rcases hreply hanswer parser buffer with ⟨hneed, hstaged, hleft⟩ | ⟨hneed, haccounted⟩
      · rw [hneed]
        exact .write hstaged hleft
      · rw [hneed]
        exact .close haccounted
    rcases result with e | (_ | request)
    · refine hcases (.ofRefusal e) ?_ ?_ ?_
      · simp only [answer?, hparse]
      · simp only [Connection.process, hparse]
      · simp only [Connection.process, hparse]
    · have hprocess : c.process v session = (.read, { c with parser, buffer }, session) := by
        simp only [Connection.process, hparse]
      have hnone : (⟨number, .process session, c⟩ : Call).answer? v = none := by
        simp only [answer?, hparse]
      have hresumes := h.parser_resumes.of_incomplete hparse
      have honward := (Parser.parse_onward (d := v.dialect) (p := c.parser) h.sound).1
      rw [hparse] at honward
      rw [hprocess]
      refine .read (h.concat hcall hnone rfl rfl rfl h.idle hresumes.sound ?_ hresumes.onward)
      exact honward.data_eq.trans (List.append_nil _).symm
    · refine hcases (v.site.respond v.files request session).1 ?_ ?_ ?_
      · simp only [answer?, hparse]
      · simp only [Connection.process, hparse]
      · simp only [Connection.process, hparse]

/-! ## Writing -/

theorem Staged.proper_write {answer : Response} (h : Staged v calls c answer)
    (hleft : c.writer.toSend ≠ 0) (number : Nat) :
    (⟨number, .write, c⟩ : Call).Proper v calls := by
  refine ⟨by simpa [Writer.isIdle] using hleft, answer, h.answers_eq, h.sends.isPrefixOf, ?_⟩
  rw [h.sends.offer? hleft, h.sends.length_eq]

/-- What a connection is like after a write. -/
inductive Written (v : Service) (calls : List Call) (c : Connection) : FlushOutcome → Prop where
  | done {n : Nat} {answer : Response} (staged : Staged v calls c answer)
    (nothing : c.writer.toSend = 0) : Written v calls c (.done n)
  | blocked {n : Nat} {answer : Response} (staged : Staged v calls c answer)
    (left : c.writer.toSend ≠ 0) : Written v calls c (.blocked n)
  | closed (accounted : Accounted v calls c) : Written v calls c .closedWhileWriting
  | failed {reason : String} (accounted : Accounted v calls c) :
    Written v calls c (.failed reason)

theorem Written.accounted {outcome : FlushOutcome} (h : Written v calls c outcome) :
    Accounted v calls c := by
  cases h with
  | done hstaged _ => exact hstaged.accounted
  | blocked hstaged _ => exact hstaged.accounted
  | closed haccounted => exact haccounted
  | failed haccounted => exact haccounted

/-- Writing sends what comes next of the response. -/
theorem Staged.write {answer : Response} (h : Staged v calls c answer)
    (hleft : c.writer.toSend ≠ 0) (number : Nat) :
    Written v (calls ++ [⟨number, .write, c⟩]) c.write.2 c.write.1 := by
  have hcall := h.proper_write hleft number
  obtain ⟨outcome, writer, stream, taken, hloop, hwritten, houtcome, -⟩ :=
    h.sends.sendLoop_cases (s := c.stream) 0
  have hwrite : c.write = (outcome, { c with writer, stream }) := by
    simp only [Connection.write, Writer.flush, hloop]
  have hcallSent : (⟨number, .write, c⟩ : Call).sent = taken := by
    simp only [Call.sent, hwrite, hwritten, List.drop_left]
  obtain ⟨older, holder, hkeep, hall⟩ := h.older
  have hanswers : answers v (calls ++ [⟨number, .write, c⟩]) = older ++ [answer] :=
    (answers_concat_of_none rfl).trans holder
  have hsince : sinceReset (calls ++ [⟨number, .write, c⟩])
      = sinceReset calls ++ [⟨number, .write, c⟩] := sinceReset_concat rfl
  have hrecent : (sinceReset (calls ++ [⟨number, .write, c⟩])).flatMap Call.sent
      = (sinceReset calls).flatMap Call.sent ++ taken := by
    rw [hsince, flatMap_concat, hcallSent]
  have hsent : (calls ++ [(⟨number, .write, c⟩ : Call)]).flatMap Call.sent
      = older.flatMap Response.encode ++ ((sinceReset calls).flatMap Call.sent ++ taken) := by
    rw [flatMap_concat, hcallSent, hall, List.append_assoc]
  have haccounted : (sinceReset calls).flatMap Call.sent ++ taken <+: answer.encode →
      Accounted v (calls ++ [⟨number, .write, c⟩]) { c with writer, stream } := by
    intro hfit
    refine h.accounted.concat hcall (by rw [hcallSent]; exact hwritten) ?_ ?_
    · rw [hsent, hanswers, List.flatMap_append, List.flatMap_singleton]
      exact (List.prefix_append_right_inj _).mpr hfit
    · rw [hanswers, List.dropLast_concat]
      exact hkeep
  have hstaged : writer.Sends answer ((sinceReset calls).flatMap Call.sent ++ taken) →
      Staged v (calls ++ [⟨number, .write, c⟩]) { c with writer, stream } answer := by
    intro hsends
    refine ⟨haccounted hsends.isPrefixOf, ?_, h.keepAlive_eq, ?_, older, hanswers, hkeep, ?_⟩
    · rw [hsince, answers_concat_of_none rfl, h.answers_eq]
    · rw [hrecent]
      exact hsends
    · rw [hrecent]
      exact hsent
  rw [hwrite]
  cases houtcome with
  | done hsends hnothing _ => exact .done (hstaged hsends) hnothing
  | blocked hsends hleft => exact .blocked (hstaged hsends) hleft
  | closed hfit => exact .closed (haccounted hfit)
  | failed hfit => exact .failed (haccounted hfit)

/-- A response that was sent and keeps the connection open leaves it as it was created. -/
theorem Staged.reset {answer : Response} (h : Staged v calls c answer)
    (hnothing : c.writer.toSend = 0) (hkeep : c.keepAlive = true) (number : Nat) :
    Reading v (calls ++ [⟨number, .reset, c⟩]) c.reset := by
  have hwhole := h.sends.out_eq_encode_iff.mpr hnothing
  have hanswerKeeps : answer.keepAlive = true := h.keepAlive_eq.symm.trans hkeep
  have hcall : (⟨number, .reset, c⟩ : Call).Proper v calls :=
    ⟨by simp [Writer.isIdle, hnothing], answer, h.answers_eq, hanswerKeeps, hwhole⟩
  obtain ⟨older, holder, hkeeps, hall⟩ := h.older
  have hanswers : answers v (calls ++ [⟨number, .reset, c⟩]) = older ++ [answer] :=
    (answers_concat_of_none rfl).trans holder
  have hall' : ∀ r ∈ older ++ [answer], r.keepAlive = true := by
    intro r hr
    rcases List.mem_append.mp hr with hr | hr
    · exact hkeeps r hr
    · rw [List.mem_singleton.mp hr]
      exact hanswerKeeps
  have hsent : (calls ++ [(⟨number, .reset, c⟩ : Call)]).flatMap Call.sent
      = (older ++ [answer]).flatMap Response.encode := by
    rw [flatMap_sent_concat_of_nil rfl, hall, hwhole, List.flatMap_append,
      List.flatMap_singleton]
  have hsince : sinceReset (calls ++ [⟨number, .reset, c⟩]) = [] := sinceReset_concat_reset rfl
  refine ⟨h.accounted.concat hcall (List.append_nil _).symm ?_ ?_, rfl, ?_, ?_, ?_, ?_,
    ReceiveBuffer.sound_ofCapacity _, ?_, fun _ => rfl⟩
  · refine ⟨[], ?_⟩
    rw [List.append_nil, hsent, hanswers]
  · rw [hanswers, List.dropLast_concat]
    exact hkeeps
  · rw [hsince]
    rfl
  · rw [hsince]
    rfl
  · rw [hsent, hanswers]
  · rw [hanswers]
    exact hall'
  · rw [hsince]
    rfl

end Connection
end Http
end SiteServer
