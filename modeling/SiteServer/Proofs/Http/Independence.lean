import SiteServer.Http.Exchange
import SiteServer.Proofs.Http.Actions
import SiteServer.Proofs.Http.Exchange
import SiteServer.Proofs.Http.Receipts

/-!
# Exchanges that know nothing of each other

A connection that is kept open serves each request as a new one would
(`Exchange.outcomes_independent`).

There are two halves to this.

* Whatever the pieces are in which a request comes in, the connection is processed as if all of it
  had been there at once (`Parser.Resumes`), and whatever the parts are in which the response is
  sent, all of it is sent (`Connection.sendOut_cases`).  So an exchange comes to what
  `Service.answer?` says, which looks at nothing but the octets received and the store
  (`Exchange.Outcome.Settles`).
* What a connection was created with stays (`Connection.Frame`), and that is all that a reset
  leaves of it.  So the next exchange begins where the first one began.

Conversely an exchange comes about whenever the last of its pieces is the first with which there
is an answer (`Connection.exists_exchange`); in particular there is one on a new connection that
gets everything at once.
-/

namespace SiteServer

/-! ## What reading and writing do to a stream -/

namespace Stream

variable {s s' : Stream}

/-- Everything that is still to arrive lets a read go on. -/
def Plain (s : Stream) : Prop := ∀ d ∈ s.arriving, d.isPlain = true

theorem payload_deliver (s : Stream) (piece : List Delivery) :
    (s.deliver piece).payload = s.payload ++ piece.flatMap Delivery.octets := by
  rw [payload, deliver, List.flatMap_append, payload]

theorem Plain.deliver (h : s.Plain) {piece : List Delivery}
    (hpiece : ∀ d ∈ piece, d.isPlain = true) : (s.deliver piece).Plain :=
  fun d hd => (List.mem_append.mp hd).elim (h d) (hpiece d)

theorem plain_of_nil (h : s.arriving = []) : s.Plain := by
  intro d hd
  rw [h] at hd
  cases hd

theorem payload_of_nil (h : s.arriving = []) : s.payload = [] := by
  rw [payload, h, List.flatMap_nil]

theorem accepting_read (s : Stream) (room : Nat) : (s.read room).2.accepting = s.accepting := by
  unfold read
  split
  · rfl
  · rfl
  · split <;> rfl

theorem arriving_write (s : Stream) (offer : Bytes) : (s.write offer).2.arriving = s.arriving := by
  unfold write
  split <;> rfl

end Stream

namespace Http

namespace ReceiveBuffer

variable {b b' : ReceiveBuffer} {s s' : Stream} {result : Except StreamFault Fill}

theorem remaining_of_data_eq {bytes : Bytes} (hdata : b'.data = b.data ++ bytes)
    (hcapacity : b'.capacity = b.capacity) : b'.remaining = b.remaining - bytes.length := by
  simp only [remaining, size, hdata, hcapacity, List.length_append]
  omega

theorem accepting_fill (b : ReceiveBuffer) (s : Stream) :
    (b.fill s).2.2.accepting = s.accepting := by
  have hread := s.accepting_read b.remaining
  rcases hfill : b.fill s with ⟨result, b', s'⟩
  rcases fill_cases hfill with ⟨-, -, -, rfl⟩ | ⟨-, ⟨_, heq, -⟩ | ⟨heq, -⟩ | ⟨_, _, heq, -⟩⟩
  · rfl
  all_goals
    rw [heq] at hread
    exact hread

/-- Where there is room for everything, what is still to arrive lets later reads go on as well,
and a read that stops has left nothing. -/
theorem fill_of_plain (h : b.fill s = (result, b', s')) (hplain : s.Plain)
    (hroom : s.payload.length ≤ b.remaining) :
    s'.Plain ∧
      ∀ total answer, Connection.readTurn total result = .stop answer → s'.payload = [] := by
  rcases fill_cases h with ⟨hnone, -, -, rfl⟩ | ⟨-, hcases⟩
  · exact ⟨hplain, fun _ _ _ => List.length_eq_zero_iff.mp (by omega)⟩
  unfold Stream.read at hcases
  cases harriving : s.arriving with
  | nil =>
    simp only [harriving] at hcases
    rcases hcases with ⟨f, hread, -⟩ | ⟨hread, -⟩ | ⟨_, _, hread, -⟩ <;> cases hread
    exact ⟨hplain, fun _ _ _ => Stream.payload_of_nil harriving⟩
  | cons d rest =>
    have hrest : ∀ d ∈ rest, d.isPlain = true := fun d hd =>
      hplain d (harriving ▸ List.mem_cons_of_mem _ hd)
    have hfirst : d.isPlain = true := hplain d (harriving ▸ List.mem_cons_self)
    rw [Stream.payload, harriving, List.flatMap_cons, List.length_append] at hroom
    cases d with
    | fault f =>
      have hf : f = .interrupted := by simpa [Delivery.isPlain] using hfirst
      simp only [harriving, hf] at hcases
      rcases hcases with ⟨_, hread, rfl, -⟩ | ⟨hread, -⟩ | ⟨_, _, hread, -⟩ <;> cases hread
      exact ⟨hrest, fun _ _ hstop => by cases hstop⟩
    | data bytes =>
      cases bytes with
      | nil => cases hfirst
      | cons x xs =>
        have hfit : (x :: xs).length ≤ b.remaining := by
          simp only [Delivery.octets] at hroom
          omega
        simp only [harriving, if_pos hfit] at hcases
        rcases hcases with ⟨_, hread, -⟩ | ⟨hread, -⟩ | ⟨_, _, hread, rfl, -⟩ <;> cases hread
        exact ⟨hrest, fun _ _ hstop => by cases hstop⟩

end ReceiveBuffer

namespace Writer

variable {w w' : Writer} {s s' : Stream}

/-- The stream after a turn. -/
def Turn.stream : Turn → Stream
  | .stop _ _ s | .again _ _ s => s

theorem arriving_turn (w : Writer) (s : Stream) (written : Nat) :
    (w.turn s written).stream.arriving = s.arriving := by
  unfold turn
  cases w.offer? with
  | none => rfl
  | some offer =>
    have hwrite := s.arriving_write offer
    cases hresult : s.write offer with
    | mk result s' =>
      rw [hresult] at hwrite
      simp only [hresult]
      rcases result with (_ | _ | _) | (_ | n) <;> exact hwrite

/-- Sending does not touch what is still to arrive. -/
theorem arriving_of_flush {answer : FlushOutcome} (h : w.flush s = (answer, w', s')) :
    s'.arriving = s.arriving := by
  unfold flush at h
  generalize 0 = written at h
  fun_induction Writer.sendLoop w s written with
  | case1 w s written hdone =>
    cases h
    rfl
  | case2 w s written hleft answer₁ w₁ s₁ hturn =>
    cases h
    have hsame := arriving_turn w s written
    rwa [hturn] at hsame
  | case3 w s written hleft n w₁ s₁ hturn ih =>
    have hsame := arriving_turn w s written
    rw [hturn] at hsame
    exact (ih h).trans hsame

end Writer

/-! ## What becomes of octets -/

/-- The response to some octets that come all at once, with the store after it, unless more are
needed.  Nothing but the octets and the store is looked at. -/
def Service.answer? (v : Service) (capacity : Nat) (session : Store.Session) (bytes : Bytes) :
    Option (Response × Store.Session) :=
  match (Parser.whole v.dialect capacity bytes).1 with
  | .ok .incomplete => none
  | .ok (.complete request) => some (v.site.respond v.files request session)
  | .error e => some (.ofRefusal e, session)

theorem Service.answer?_nil (v : Service) (capacity : Nat) (session : Store.Session) :
    v.answer? capacity session [] = none := by
  rw [answer?, Parser.whole, ReceiveBuffer.extend_nil, Parser.parse_fresh]

namespace Connection

variable {v : Service} {c c' c'' : Connection} {session session' : Store.Session} {r : Response}

/-! ## Reading -/

theorem accepting_readLoop (b : ReceiveBuffer) (s : Stream) (total : Nat) :
    (readLoop b s total).2.2.accepting = s.accepting := by
  induction b, s, total using readLoop.induct with
  | case1 b s total result b' s' hfill answer hturn =>
    have hsame := b.accepting_fill s
    rw [hfill] at hsame
    rw [readLoop_of_stop hfill hturn]
    exact hsame
  | case2 b s total result b' s' hfill total' hturn ih =>
    have hsame := b.accepting_fill s
    rw [hfill] at hsame
    rw [readLoop_of_again hfill hturn]
    exact ih.trans hsame

/-- What finds room is read until nothing is left. -/
theorem readLoop_of_plain {b : ReceiveBuffer} {s : Stream} (total : Nat) (hplain : s.Plain)
    (hroom : s.payload.length ≤ b.remaining) :
    (readLoop b s total).2.2.Plain ∧ (readLoop b s total).2.2.payload = [] := by
  induction b, s, total using readLoop.induct with
  | case1 b s total result b' s' hfill answer hturn =>
    obtain ⟨hplain', hstop⟩ := ReceiveBuffer.fill_of_plain hfill hplain hroom
    rw [readLoop_of_stop hfill hturn]
    exact ⟨hplain', hstop total answer hturn⟩
  | case2 b s total result b' s' hfill total' hturn ih =>
    obtain ⟨taken, rfl, -, hpayload, -⟩ := ReceiveBuffer.fill_eq hfill
    rw [readLoop_of_again hfill hturn]
    refine ih (ReceiveBuffer.fill_of_plain hfill hplain hroom).1 ?_
    rw [hpayload, List.length_append] at hroom
    simp only [ReceiveBuffer.remaining, ReceiveBuffer.size, ReceiveBuffer.append,
      List.length_append] at hroom ⊢
    omega

/-- A read takes some of what is to arrive, and all of it if this is plain and finds room. -/
theorem read_cases (c : Connection) :
    ∃ taken stream, c.read.2 = { c with buffer := c.buffer.append taken, stream } ∧
      taken.length ≤ c.buffer.remaining ∧ stream.written = c.stream.written ∧
      stream.accepting = c.stream.accepting ∧
      (c.stream.Plain → c.stream.payload.length ≤ c.buffer.remaining →
        taken = c.stream.payload ∧ stream.Plain ∧ stream.payload = []) := by
  obtain ⟨taken, hbuffer, hroom, hpayload, hwritten⟩ := readLoop_eq c.buffer c.stream 0
  refine ⟨taken, _, ?_, hroom, hwritten, accepting_readLoop _ _ 0, fun hplain hfit => ?_⟩
  · rw [← hbuffer]
    rfl
  · obtain ⟨hplain', hnothing⟩ := readLoop_of_plain 0 hplain hfit
    rw [hnothing, List.append_nil] at hpayload
    exact ⟨hpayload.symm, hplain', hnothing⟩

/-! ## Processing -/

/-- Without an answer nothing happens but that the parser may go on. -/
theorem process_of_unanswered (h : Parser.Resumes v.dialect c.parser c.buffer)
    (hanswer : v.answer? c.buffer.capacity session c.buffer.data = none) :
    ∃ parser buffer, c.process v session = (.read, { c with parser, buffer }, session) ∧
      Parser.Resumes v.dialect parser buffer ∧ buffer.data = c.buffer.data ∧
      buffer.capacity = c.buffer.capacity := by
  have honward := (Parser.parse_onward (d := v.dialect) (p := c.parser) h.sound).1
  rw [Service.answer?, ← h.parse_eq_whole] at hanswer
  cases hparse : c.parser.parse v.dialect c.buffer with
  | mk result rest =>
    obtain ⟨parser, buffer⟩ := rest
    rw [hparse] at hanswer honward
    rcases result with e | (_ | request)
    · cases hanswer
    · refine ⟨parser, buffer, ?_, h.of_incomplete hparse, honward.data_eq, honward.capacity_eq⟩
      simp only [Connection.process, hparse]
    · cases hanswer

/-- An answer is put on its way if its head fits. -/
theorem process_of_answered (h : Parser.Resumes v.dialect c.parser c.buffer)
    (hanswer : v.answer? c.buffer.capacity session c.buffer.data = some (r, session')) :
    ∃ need parser buffer writer,
      c.process v session
        = (need, { c with parser, buffer, writer, keepAlive := r.keepAlive }, session') ∧
      buffer.data = c.buffer.data ∧ buffer.capacity = c.buffer.capacity ∧
      writer.capacity = c.writer.capacity ∧
      ((need = .write ∧ r.head.length ≤ c.writer.capacity ∧ writer.Sends r []) ∨
        (need = .close ∧ c.writer.capacity < r.head.length)) := by
  have honward := (Parser.parse_onward (d := v.dialect) (p := c.parser) h.sound).1
  rw [Service.answer?, ← h.parse_eq_whole] at hanswer
  cases hparse : c.parser.parse v.dialect c.buffer with
  | mk result rest =>
    obtain ⟨parser, buffer⟩ := rest
    rw [hparse] at hanswer honward
    -- a request and a refusal are answered in the same way
    have hprocess : c.process v session
        = ((({ c with parser, buffer } : Connection).reply r).1,
          (({ c with parser, buffer } : Connection).reply r).2, session') := by
      rcases result with e | (_ | request)
      · cases hanswer
        simp only [Connection.process, hparse]
      · cases hanswer
      · have hrespond := Option.some.inj hanswer
        simp only [Connection.process, hparse, hrespond]
    have hcapacity : (c.writer.compose r).2.capacity = c.writer.capacity := by
      unfold Writer.compose
      split <;> rfl
    rcases Nat.lt_or_ge c.writer.capacity r.head.length with hover | hfits
    · have hcompose : c.writer.compose r = (.error ⟨c.writer.capacity⟩, (c.writer.compose r).2) := by
        rw [Writer.compose, if_pos hover]
      refine ⟨.close, parser, buffer, (c.writer.compose r).2, ?_, honward.data_eq,
        honward.capacity_eq, hcapacity, Or.inr ⟨rfl, hover⟩⟩
      rw [hprocess, reply, hcompose]
    · have hcompose : c.writer.compose r = (.ok (), (c.writer.compose r).2) := by
        rw [Writer.compose, if_neg (Nat.not_lt.mpr hfits)]
      refine ⟨.write, parser, buffer, (c.writer.compose r).2, ?_, honward.data_eq,
        honward.capacity_eq, hcapacity, Or.inl ⟨rfl, hfits, Writer.sends_of_compose hcompose⟩⟩
      rw [hprocess, reply, hcompose]

/-! ## Taking in a request -/

/-- What a connection was created with has stayed. -/
structure Frame (c c' : Connection) : Prop where
  id_eq : c'.id = c.id
  peer_eq : c'.peer = c.peer
  readCapacity_eq : c'.buffer.capacity = c.buffer.capacity
  writeCapacity_eq : c'.writer.capacity = c.writer.capacity

theorem Frame.trans (h : Frame c c') (h' : Frame c' c'') : Frame c c'' where
  id_eq := h'.id_eq.trans h.id_eq
  peer_eq := h'.peer_eq.trans h.peer_eq
  readCapacity_eq := h'.readCapacity_eq.trans h.readCapacity_eq
  writeCapacity_eq := h'.writeCapacity_eq.trans h.writeCapacity_eq

theorem Frame.reset_eq (h : Frame c c') :
    c'.reset = accepted c.id c.peer c'.stream c.buffer.capacity c.writer.capacity := by
  rw [← h.id_eq, ← h.peer_eq, ← h.readCapacity_eq, ← h.writeCapacity_eq]
  rfl

/-- Some octets were taken in, and the response to them is on its way, nothing of it sent. -/
structure TakenIn (v : Service) (session : Store.Session) (c : Connection) (taken : Bytes)
    (r : Response) (c' : Connection) (session' : Store.Session) : Prop where
  frame : Frame c c'
  written_eq : c'.stream.written = c.stream.written
  data_eq : c'.buffer.data = c.buffer.data ++ taken
  size_le : (c.buffer.data ++ taken).length ≤ c.buffer.capacity
  answer_eq : v.answer? c.buffer.capacity session (c.buffer.data ++ taken) = some (r, session')
  fits : r.head.length ≤ c.writer.capacity
  sends : c'.writer.Sends r []
  keepAlive_eq : c'.keepAlive = r.keepAlive

theorem TakenIn.cons {first more : Bytes} (hframe : Frame c c')
    (hwritten : c'.stream.written = c.stream.written)
    (hdata : c'.buffer.data = c.buffer.data ++ first)
    (h : TakenIn v session c' more r c'' session') :
    TakenIn v session c (first ++ more) r c'' session' := by
  have hall : c.buffer.data ++ (first ++ more) = c'.buffer.data ++ more := by
    rw [hdata, List.append_assoc]
  refine ⟨hframe.trans h.frame, h.written_eq.trans hwritten, ?_, ?_, ?_, ?_, h.sends,
    h.keepAlive_eq⟩
  · rw [hall]
    exact h.data_eq
  · rw [hall, ← hframe.readCapacity_eq]
    exact h.size_le
  · rw [hall, ← hframe.readCapacity_eq]
    exact h.answer_eq
  · rw [← hframe.writeCapacity_eq]
    exact h.fits

theorem read_deliver_cases (c : Connection) (piece : List Delivery) :
    ∃ taken stream, ({ c with stream := c.stream.deliver piece } : Connection).read.2
        = { c with buffer := c.buffer.append taken, stream } ∧
      taken.length ≤ c.buffer.remaining ∧ stream.written = c.stream.written ∧
      stream.accepting = c.stream.accepting ∧
      (c.stream.Plain → c.stream.payload = [] → (∀ d ∈ piece, d.isPlain = true) →
        (piece.flatMap Delivery.octets).length ≤ c.buffer.remaining →
          taken = piece.flatMap Delivery.octets ∧ stream.Plain ∧ stream.payload = []) := by
  obtain ⟨taken, stream, hread, hroom, hwritten, haccepting, hall⟩ :=
    read_cases { c with stream := c.stream.deliver piece }
  refine ⟨taken, stream, hread, hroom, hwritten, haccepting, fun hplain hnothing hpiece hfit => ?_⟩
  have hpayload : (c.stream.deliver piece).payload = piece.flatMap Delivery.octets := by
    rw [Stream.payload_deliver, hnothing, List.nil_append]
  have hread := hall (hplain.deliver hpiece)
  simp only [hpayload] at hread
  exact hread hfit

/-- Whatever is taken in, and in whatever pieces, the response to it is on its way. -/
theorem takeIn_cases {pieces : List (List Delivery)}
    (h : Parser.Resumes v.dialect c.parser c.buffer)
    (htake : c.takeIn v session pieces = some (c', session')) :
    ∃ taken r, TakenIn v session c taken r c' session' ∧
      (c.stream.Plain → c.stream.payload = [] → (∀ d ∈ pieces.flatten, d.isPlain = true) →
        (pieces.flatten.flatMap Delivery.octets).length ≤ c.buffer.remaining →
          taken = pieces.flatten.flatMap Delivery.octets ∧ c'.stream.Plain ∧
            c'.stream.payload = []) := by
  induction pieces generalizing c with
  | nil => cases htake
  | cons piece pieces ih =>
    obtain ⟨first, stream, hread, hroom, hwritten, -, hplain⟩ := c.read_deliver_cases piece
    have hresumes := h.append hroom
    have hsize : (c.buffer.data ++ first).length ≤ c.buffer.capacity := hresumes.sound.size_le
    unfold takeIn at htake
    rw [hread] at htake
    cases hanswer : v.answer? c.buffer.capacity session (c.buffer.data ++ first) with
    | none =>
      obtain ⟨parser, buffer, hprocess, hresumes', hdata, hcapacity⟩ :=
        process_of_unanswered (c := { c with buffer := c.buffer.append first, stream })
          hresumes hanswer
      rw [hprocess] at htake
      obtain ⟨more, r, htaken, hplain'⟩ := ih hresumes' htake
      have hframe : Frame c { c with parser, buffer, stream } := ⟨rfl, rfl, hcapacity, rfl⟩
      refine ⟨first ++ more, r, htaken.cons hframe hwritten hdata,
        fun hclean hnothing hpieces hfit => ?_⟩
      rw [List.flatten_cons, List.flatMap_append] at hfit ⊢
      rw [List.flatten_cons, List.forall_mem_append] at hpieces
      rw [List.length_append] at hfit
      obtain ⟨rfl, hclean', hnothing'⟩ := hplain hclean hnothing hpieces.1 (by omega)
      have hroom' := ReceiveBuffer.remaining_of_data_eq hdata hcapacity
      obtain ⟨rfl, hlast⟩ := hplain' hclean' hnothing' hpieces.2 (by rw [hroom']; omega)
      exact ⟨rfl, hlast⟩
    | some answer =>
      obtain ⟨r, session₁⟩ := answer
      obtain ⟨need, parser, buffer, writer, hprocess, hdata, hcapacity, hcapacity',
        ⟨rfl, hfits, hsends⟩ | ⟨rfl, -⟩⟩ :=
        process_of_answered (c := { c with buffer := c.buffer.append first, stream })
          hresumes hanswer
      · rw [hprocess] at htake
        simp only at htake
        split at htake
        case isTrue hlast =>
          cases htake
          refine ⟨first, r, ⟨⟨rfl, rfl, hcapacity, hcapacity'⟩, hwritten, hdata, hsize, hanswer,
            hfits, hsends, rfl⟩, fun hclean hnothing hpieces hfit => ?_⟩
          rw [hlast, List.flatten_singleton] at hpieces hfit ⊢
          exact hplain hclean hnothing hpieces hfit
        case isFalse => cases htake
      · rw [hprocess] at htake
        cases htake

/-- A connection takes in what comes in plain pieces, if the last of them is the first with which
there is an answer, and this fits. -/
theorem exists_takeIn {pieces : List (List Delivery)} (hne : pieces ≠ [])
    (h : Parser.Resumes v.dialect c.parser c.buffer) (hclean : c.stream.Plain)
    (hnothing : c.stream.payload = []) (hpieces : ∀ d ∈ pieces.flatten, d.isPlain = true)
    (hroom : (pieces.flatten.flatMap Delivery.octets).length ≤ c.buffer.remaining)
    (hearlier : ∀ n < pieces.length, v.answer? c.buffer.capacity session
      (c.buffer.data ++ (pieces.take n).flatten.flatMap Delivery.octets) = none)
    (hanswer : v.answer? c.buffer.capacity session
      (c.buffer.data ++ pieces.flatten.flatMap Delivery.octets) = some (r, session'))
    (hfits : r.head.length ≤ c.writer.capacity) :
    ∃ c', c.takeIn v session pieces = some (c', session') ∧
      c'.stream.accepting = c.stream.accepting := by
  induction pieces generalizing c with
  | nil => exact absurd rfl hne
  | cons piece pieces ih =>
    obtain ⟨first, stream, hread, hfirst, hwritten, haccepting, hplain⟩ :=
      c.read_deliver_cases piece
    have hresumes := h.append hfirst
    rw [List.flatten_cons, List.forall_mem_append] at hpieces
    rw [List.flatten_cons, List.flatMap_append] at hroom hanswer
    rw [List.length_append] at hroom
    obtain ⟨rfl, hclean', hnothing'⟩ := hplain hclean hnothing hpieces.1 (by omega)
    unfold takeIn
    rw [hread]
    cases pieces with
    | nil =>
      rw [List.flatten_nil, List.flatMap_nil, List.append_nil] at hanswer
      obtain ⟨need, parser, buffer, writer, hprocess, -, -, -, ⟨rfl, -⟩ | ⟨-, hover⟩⟩ :=
        process_of_answered
          (c := { c with buffer := c.buffer.append (piece.flatMap Delivery.octets), stream })
          hresumes hanswer
      · rw [hprocess]
        exact ⟨_, rfl, haccepting⟩
      · exact absurd hfits (Nat.not_le.mpr hover)
    | cons next pieces =>
      have hnone := hearlier 1 (by simp)
      rw [List.take_succ_cons, List.take_zero, List.flatten_singleton] at hnone
      obtain ⟨parser, buffer, hprocess, hresumes', hdata, hcapacity⟩ :=
        process_of_unanswered
          (c := { c with buffer := c.buffer.append (piece.flatMap Delivery.octets), stream })
          hresumes hnone
      -- what was read is there for the rest, which finds the room that is left
      have hall : ∀ more, buffer.data ++ more
          = c.buffer.data ++ (piece.flatMap Delivery.octets ++ more) := by
        intro more
        rw [hdata, ← List.append_assoc]
        rfl
      have hroom' := ReceiveBuffer.remaining_of_data_eq hdata hcapacity
      have hcapacity' : buffer.capacity = c.buffer.capacity := hcapacity
      obtain ⟨c', htake, hsame⟩ := ih (c := { c with buffer, parser, stream }) (by simp) hresumes'
        hclean' hnothing' hpieces.2 (by rw [hroom']; omega)
        (fun n hn => by
          have hlater := hearlier (n + 1) (Nat.succ_lt_succ hn)
          rw [List.take_succ_cons, List.flatten_cons, List.flatMap_append] at hlater
          rw [hall, hcapacity']
          exact hlater)
        (by rw [hall, hcapacity']; exact hanswer) hfits
      rw [hprocess]
      exact ⟨c', htake, hsame.trans haccepting⟩

/-! ## Sending the response -/

/-- However a response is sent in parts, the whole of it is sent. -/
theorem sendOut_cases {parts : List (List Acceptance)} {out : Bytes}
    (h : c.writer.Sends r out) (hsend : c.sendOut parts = some c') :
    Frame c c' ∧ c'.keepAlive = c.keepAlive ∧ c'.stream.arriving = c.stream.arriving ∧
      ∃ taken, c'.stream.written = c.stream.written ++ taken ∧ out ++ taken = r.encode := by
  induction parts generalizing c out with
  | nil => cases hsend
  | cons part parts ih =>
    unfold sendOut at hsend
    cases hflush : c.writer.flush (c.stream.expect part) with
    | mk answer rest =>
      obtain ⟨writer, stream⟩ := rest
      have hwrite : ({ c with stream := c.stream.expect part } : Connection).write
          = (answer, { c with writer, stream }) := by
        simp only [Connection.write, hflush]
      obtain ⟨first, hwritten, houtcome⟩ := h.flush_cases hflush
      have hframe : Frame c { c with writer, stream } :=
        ⟨rfl, rfl, rfl, (Writer.keeps_of_flush hflush).1.capacity_eq⟩
      have harriving : stream.arriving = (c.stream.expect part).arriving :=
        Writer.arriving_of_flush hflush
      rw [hwrite] at hsend
      cases houtcome with
      | done hsends hdone =>
        simp only at hsend
        split at hsend
        · cases hsend
          exact ⟨hframe, rfl, harriving, first, hwritten, hsends.out_eq_encode_iff.mpr hdone⟩
        · cases hsend
      | blocked hsends =>
        obtain ⟨hframe', hkeep, harriving', taken, hwritten', hall⟩ := ih hsends hsend
        refine ⟨hframe.trans hframe', hkeep, harriving'.trans harriving, first ++ taken, ?_, ?_⟩
        · rw [hwritten', hwritten, List.append_assoc]
          rfl
        · rw [← List.append_assoc, hall]
      | closed => cases hsend
      | failed => cases hsend

/-- A stream that takes whatever it is offered is sent the response in one part. -/
theorem exists_sendOut (h : c.writer.Sends r []) (haccepting : c.stream.accepting = []) :
    ∃ c', c.sendOut [[]] = some c' ∧ c'.stream.accepting = [] := by
  have hnone : (c.stream.expect []).accepting = [] := by
    rw [Stream.expect, haccepting, List.append_nil]
  obtain ⟨answer, writer, stream, taken, hflush, -, hflushed⟩ :=
    h.sendLoop (s := c.stream.expect []) (by rw [hnone]; rfl) 0
  obtain ⟨hkeeps, hblocked⟩ := Writer.keeps_of_flush hflush
  have hsuffix := hkeeps.accepting_suffix
  rw [hnone, List.suffix_nil] at hsuffix
  rcases hflushed.answer_iff with ⟨hdone, -, -⟩ | ⟨hwaits, -⟩
  · refine ⟨{ c with writer, stream }, ?_, hsuffix⟩
    have hwrite : ({ c with stream := c.stream.expect [] } : Connection).write
        = (answer, { c with writer, stream }) := by
      simp only [Connection.write, Writer.flush, hflush]
    rw [sendOut, hwrite, hdone]
    rfl
  · have hless := hblocked _ hwaits
    rw [hnone] at hless
    exact absurd hless (Nat.not_lt_zero _)

end Connection

/-! ## Exchanges -/

/-- An exchange has come to what becomes of the octets received if they come all at once to a
connection with these capacities. -/
structure Exchange.Outcome.Settles (v : Service) (readCapacity writeCapacity : Nat)
    (session : Store.Session) (o : Outcome) (r : Response) : Prop where
  size_le : o.received.length ≤ readCapacity
  answer_eq : v.answer? readCapacity session o.received = some (r, o.session)
  fits : r.head.length ≤ writeCapacity
  sent_eq : o.sent = r.encode
  keepAlive_eq : o.keepAlive = r.keepAlive

/-- There is one thing only that some octets can come to. -/
theorem Exchange.Outcome.Settles.unique {v : Service} {readCapacity writeCapacity : Nat}
    {session : Store.Session} {o o' : Outcome} {r r' : Response}
    (h : o.Settles v readCapacity writeCapacity session r)
    (h' : o'.Settles v readCapacity writeCapacity session r')
    (hreceived : o'.received = o.received) : o' = o := by
  have hsame := h'.answer_eq
  rw [hreceived, h.answer_eq] at hsame
  obtain ⟨rfl, hsession⟩ := Prod.mk.inj (Option.some.inj hsame)
  exact Outcome.ext hreceived (h'.sent_eq.trans h.sent_eq.symm)
    (h'.keepAlive_eq.trans h.keepAlive_eq.symm) hsession.symm

namespace Connection

open Exchange

variable {v : Service} {id : Nat} {peer : Net.SocketAddress} {stream : Stream}
  {readCapacity writeCapacity : Nat} {session session' : Store.Session} {c' : Connection}
  {o : Outcome} {r : Response}

theorem resumes_accepted (v : Service) (id : Nat) (peer : Net.SocketAddress) (stream : Stream)
    (readCapacity writeCapacity : Nat) :
    Parser.Resumes v.dialect (accepted id peer stream readCapacity writeCapacity).parser
      (accepted id peer stream readCapacity writeCapacity).buffer :=
  Parser.resumes_fresh v.dialect readCapacity

/-- An exchange comes to what the octets received say, and leaves the connection as it was
created. -/
theorem exchange_cases {e : Exchange}
    (h : (accepted id peer stream readCapacity writeCapacity).exchange v session e
      = some (o, c')) :
    (∃ r, o.Settles v readCapacity writeCapacity session r) ∧
      c' = accepted id peer c'.stream readCapacity writeCapacity ∧
      c'.stream.written = stream.written ++ o.sent ∧
      (stream.Plain → stream.payload = [] → e.Fits readCapacity →
        o.received = e.octets ∧ c'.stream.Plain ∧ c'.stream.payload = []) := by
  unfold exchange at h
  split at h
  · cases h
  case h_2 c₁ session₁ htake =>
    split at h
    · cases h
    case h_2 c₂ hsend =>
      cases h
      obtain ⟨taken, r, htaken, hplain⟩ := takeIn_cases (resumes_accepted _ _ _ _ _ _) htake
      obtain ⟨hframe, hkeep, harriving, sent, hwritten, hsent⟩ :=
        sendOut_cases htaken.sends hsend
      have hreceived : c₁.buffer.data = taken := htaken.data_eq
      have hwritten' : c₂.stream.written = stream.written ++ sent := by
        rw [hwritten, htaken.written_eq]
        rfl
      have hdropped : c₂.stream.written.drop stream.written.length = sent := by
        rw [hwritten', List.drop_left]
      rw [List.nil_append] at hsent
      refine ⟨⟨r, ?_, ?_, htaken.fits, hdropped.trans hsent, hkeep.trans htaken.keepAlive_eq⟩,
        (htaken.frame.trans hframe).reset_eq, ?_, fun hclean hnothing hfits => ?_⟩
      · show c₁.buffer.data.length ≤ readCapacity
        rw [hreceived]
        exact htaken.size_le
      · show v.answer? readCapacity session c₁.buffer.data = some (r, session₁)
        rw [hreceived]
        exact htaken.answer_eq
      · exact hwritten'.trans (congrArg _ hdropped.symm)
      · obtain ⟨hall, hclean', hnothing'⟩ := hplain hclean hnothing hfits.1 hfits.2
        have hsame : c₂.reset.stream.payload = c₁.stream.payload :=
          congrArg (List.flatMap Delivery.octets) harriving
        refine ⟨hreceived.trans hall, fun d hd => hclean' d (harriving ▸ hd), ?_⟩
        rw [hsame, hnothing']

/-- An exchange whose pieces fit comes about if the last of them is the first with which there is
an answer, and the head of this fits. -/
theorem exists_exchange {pieces : List (List Delivery)}
    (hfits : Exchange.Fits ⟨pieces, [[]]⟩ readCapacity) (hclean : stream.Plain)
    (hnothing : stream.payload = []) (haccepting : stream.accepting = [])
    (hearlier : ∀ n < pieces.length,
      v.answer? readCapacity session ((pieces.take n).flatten.flatMap Delivery.octets) = none)
    (hanswer : v.answer? readCapacity session (pieces.flatten.flatMap Delivery.octets)
      = some (r, session'))
    (hhead : r.head.length ≤ writeCapacity) :
    ∃ c', (accepted id peer stream readCapacity writeCapacity).exchange v session ⟨pieces, [[]]⟩
        = some (⟨pieces.flatten.flatMap Delivery.octets, r.encode, r.keepAlive, session'⟩, c') ∧
      c'.stream.accepting = [] := by
  have hne : pieces ≠ [] := by
    rintro rfl
    cases (v.answer?_nil readCapacity session).symm.trans hanswer
  obtain ⟨c₁, htake, hsame⟩ :=
    exists_takeIn (c := accepted id peer stream readCapacity writeCapacity) hne
      (resumes_accepted v _ _ _ _ _) hclean hnothing hfits.1 hfits.2 hearlier hanswer hhead
  obtain ⟨taken, r₁, htaken, -⟩ := takeIn_cases (resumes_accepted v _ _ _ _ _) htake
  obtain ⟨c₂, hsend, haccepting'⟩ := exists_sendOut htaken.sends (hsame.trans haccepting)
  have hexchange : ∃ o, (accepted id peer stream readCapacity writeCapacity).exchange v session
      ⟨pieces, [[]]⟩ = some (o, c₂.reset) := by
    unfold exchange
    simp only [htake, hsend]
    exact ⟨_, rfl⟩
  obtain ⟨o, ho⟩ := hexchange
  obtain ⟨⟨r', hsettles⟩, -, -, hplain⟩ := exchange_cases ho
  obtain ⟨hreceived, -⟩ := hplain hclean hnothing hfits
  have hexpected : (⟨_, r.encode, r.keepAlive, session'⟩ : Outcome).Settles v readCapacity
      writeCapacity session r := ⟨hfits.2, hanswer, hhead, rfl, rfl⟩
  refine ⟨c₂.reset, ?_, haccepting'⟩
  rw [ho, hexpected.unique hsettles hreceived]
  rfl

/-- Every exchange of a run comes to what the octets received say. -/
theorem exchangeAll_cases {es : List Exchange} {outcomes : List Outcome}
    (h : (accepted id peer stream readCapacity writeCapacity).exchangeAll v session es
      = some (outcomes, c')) :
    c' = accepted id peer c'.stream readCapacity writeCapacity ∧
      c'.stream.written = stream.written ++ outcomes.flatMap Outcome.sent ∧
      (stream.Plain → stream.payload = [] → (∀ e ∈ es, e.Fits readCapacity) →
        outcomes.map Outcome.received = es.map Exchange.octets) ∧
      ∀ earlier o later, outcomes = earlier ++ o :: later →
        ∃ r, o.Settles v readCapacity writeCapacity (storeAfter session earlier) r := by
  induction es generalizing stream session outcomes with
  | nil =>
    cases h
    refine ⟨rfl, (List.append_nil _).symm, fun _ _ _ => rfl, fun earlier o later heq => ?_⟩
    simp at heq
  | cons e es ih =>
    unfold exchangeAll at h
    split at h
    · cases h
    case h_2 o c₁ hexchange =>
      obtain ⟨hsettles, hsame, hwritten, hplain⟩ := exchange_cases hexchange
      rw [hsame] at h
      split at h
      · cases h
      case h_2 outcomes c₂ hall =>
        cases h
        obtain ⟨hsame', hwritten', hplain', hlater⟩ := ih hall
        refine ⟨hsame', ?_, fun hclean hnothing hfits => ?_, fun earlier o' later heq => ?_⟩
        · rw [hwritten', hwritten, List.flatMap_cons, List.append_assoc]
        · rw [List.forall_mem_cons] at hfits
          obtain ⟨hreceived, hclean', hnothing'⟩ := hplain hclean hnothing hfits.1
          rw [List.map_cons, List.map_cons, hreceived, hplain' hclean' hnothing' hfits.2]
        · cases earlier with
          | nil =>
            obtain ⟨rfl, -⟩ := List.cons.inj heq
            exact hsettles
          | cons first earlier =>
            obtain ⟨rfl, hrest⟩ := List.cons.inj heq
            exact hlater earlier o' later hrest

end Connection

/-! ## New connections -/

namespace Exchange

open Connection

variable {v : Service} {id : Nat} {peer : Net.SocketAddress} {stream : Stream}
  {readCapacity writeCapacity : Nat} {session : Store.Session} {c' : Connection} {o : Outcome}
  {r : Response}

theorem octets_atOnce (bytes : Bytes) (parts : List (List Acceptance)) :
    (atOnce bytes parts).octets = bytes := by
  simp [atOnce, octets, Delivery.octets]

namespace Outcome.Settles

theorem received_ne_nil (h : o.Settles v readCapacity writeCapacity session r) :
    o.received ≠ [] := by
  intro hempty
  have hanswer := h.answer_eq
  rw [hempty, Service.answer?_nil] at hanswer
  cases hanswer

theorem fits_atOnce (h : o.Settles v readCapacity writeCapacity session r)
    (parts : List (List Acceptance)) : (atOnce o.received parts).Fits readCapacity := by
  refine ⟨fun d hd => ?_, ?_⟩
  · have hd : d = .data o.received := by simpa [atOnce] using hd
    simpa [hd, Delivery.isPlain] using h.received_ne_nil
  · rw [octets_atOnce]
    exact h.size_le

/-- On a new connection that gets everything at once there is an exchange that comes to the
same. -/
theorem exists_anew (h : o.Settles v readCapacity writeCapacity session r) (id : Nat)
    (peer : Net.SocketAddress) :
    ∃ c', (accepted id peer {} readCapacity writeCapacity).exchange v session
      (atOnce o.received [[]]) = some (o, c') := by
  have hoctets : ([[.data o.received]] : List (List Delivery)).flatten.flatMap Delivery.octets
      = o.received := octets_atOnce o.received [[]]
  have hearlier : ∀ n < 1, v.answer? readCapacity session
      ((([[.data o.received]] : List (List Delivery)).take n).flatten.flatMap Delivery.octets)
      = none := by
    intro n hn
    obtain rfl : n = 0 := by omega
    exact v.answer?_nil readCapacity session
  have hexchange : ∃ c', (accepted id peer {} readCapacity writeCapacity).exchange v session
      (atOnce o.received [[]]) = some (⟨_, r.encode, r.keepAlive, o.session⟩, c') ∧
        c'.stream.accepting = [] :=
    exists_exchange (h.fits_atOnce [[]]) (Stream.plain_of_nil rfl) rfl rfl hearlier
      (hoctets.symm ▸ h.answer_eq) h.fits
  obtain ⟨c', hexchange, -⟩ := hexchange
  refine ⟨c', hexchange.trans ?_⟩
  rw [hoctets, ← h.sent_eq, ← h.keepAlive_eq]

theorem unique_anew (h : o.Settles v readCapacity writeCapacity session r)
    {parts : List (List Acceptance)} {o' : Outcome} (harriving : stream.arriving = [])
    (hexchange : (accepted id peer stream readCapacity writeCapacity).exchange v session
      (atOnce o.received parts) = some (o', c')) : o' = o := by
  obtain ⟨⟨r', hsettles⟩, -, -, hplain⟩ := exchange_cases hexchange
  obtain ⟨hreceived, -⟩ := hplain (Stream.plain_of_nil harriving)
    (Stream.payload_of_nil harriving) (h.fits_atOnce parts)
  exact h.unique hsettles (hreceived.trans (octets_atOnce _ _))

/-- A request is routed once. -/
theorem session_eq_of_request (h : o.Settles v readCapacity writeCapacity session r)
    {request : Request}
    (hrequest : (Parser.whole v.dialect readCapacity o.received).1 = .ok (.complete request)) :
    o.session = (Route.route request session).2 := by
  have hanswer := h.answer_eq
  simp only [Service.answer?, hrequest, Option.some.injEq] at hanswer
  have hsession : o.session = (v.site.respond v.files request session).2 := by rw [hanswer]
  rw [hsession, Site.respond]
  dsimp only
  split <;> rfl

/-- What is refused does nothing to the store. -/
theorem session_eq_of_refusal (h : o.Settles v readCapacity writeCapacity session r)
    {e : Refusal}
    (hrefused : (Parser.whole v.dialect readCapacity o.received).1 = .error e) :
    o.session = session := by
  have hanswer := h.answer_eq
  simp only [Service.answer?, hrefused, Option.some.injEq] at hanswer
  exact (congrArg Prod.snd hanswer).symm

end Outcome.Settles

/-- **Exchanges on one connection do not influence each other.**  Whatever site, files and store
there are, and however octets come in and are accepted, each exchange on a connection that is
reset in between comes to what it comes to on a new connection with these capacities that gets at
once what was received, with the store that the exchanges before have left:

* the same is sent, the same is said about keeping the connection open, and the store is the same
  after it; and there is such an exchange on a new connection, whatever the client is;
* a request is routed once, so that a registration adds one row, and what is refused does nothing
  to the store.

What was received is what came in, if this is no more than there is room for; what the client has
accepted are the responses one after another; and in the end the connection is as it was created,
but for its stream. -/
theorem outcomes_independent {es : List Exchange} {outcomes : List Outcome}
    (h : (accepted id peer stream readCapacity writeCapacity).exchangeAll v session es
      = some (outcomes, c')) :
    (∀ earlier o later before, outcomes = earlier ++ o :: later →
      before = storeAfter session earlier →
      o.received.length ≤ readCapacity ∧
      (∀ id' peer', ∃ c'', (accepted id' peer' {} readCapacity writeCapacity).exchange v before
        (atOnce o.received [[]]) = some (o, c'')) ∧
      (∀ id' peer' stream' parts o' c'', stream'.arriving = [] →
        (accepted id' peer' stream' readCapacity writeCapacity).exchange v before
          (atOnce o.received parts) = some (o', c'') → o' = o) ∧
      (∀ e, (Parser.whole v.dialect readCapacity o.received).1 = .error e →
        o.session = before) ∧
      ∀ request,
        (Parser.whole v.dialect readCapacity o.received).1 = .ok (.complete request) →
        o.session = (Route.route request before).2 ∧
        ∀ user password, Route.Registers request before user password →
          o.session.credentials.users = before.credentials.users ++ [(user, password)] ∧
            before.backend.Gains before.storage o.session.storage (user, password)) ∧
    (stream.arriving = [] → (∀ e ∈ es, e.Fits readCapacity) →
      outcomes.map Outcome.received = es.map Exchange.octets) ∧
    c'.stream.written = stream.written ++ outcomes.flatMap Outcome.sent ∧
    c' = accepted id peer c'.stream readCapacity writeCapacity := by
  obtain ⟨hcreated, hwritten, hreceived, hsettled⟩ := exchangeAll_cases h
  refine ⟨fun earlier o later before heq hbefore => ?_, fun harriving => ?_, hwritten, hcreated⟩
  · obtain ⟨r, hsettles⟩ := hsettled earlier o later heq
    rw [← hbefore] at hsettles
    refine ⟨hsettles.size_le, hsettles.exists_anew,
      fun _ _ _ _ _ _ harriving hexchange => hsettles.unique_anew harriving hexchange,
      fun e => hsettles.session_eq_of_refusal, fun request hrequest => ?_⟩
    have hsession := hsettles.session_eq_of_request hrequest
    refine ⟨hsession, fun user password hregisters => ?_⟩
    obtain ⟨storage, hadd, hroute⟩ := Route.route_of_registers hregisters
    rw [hsession, hroute]
    exact ⟨Store.Credentials.users_put password hregisters.unknown,
      Store.Backend.gains_of_addRow hadd⟩
  · exact hreceived (Stream.plain_of_nil harriving) (Stream.payload_of_nil harriving)

/-- Somebody registers, with octets behind the request and a wait inside a line end, and the
connection is kept open.  The next request does not ask for that, and is answered as on a new
connection. -/
theorem outcomes_independent_of_registration :
    let nowhere : Files.View := ⟨fun _ => .error .notFound, fun _ => .error .notFound⟩
    let v : Service := ⟨.ofRoot "/srv", nowhere, fun _ => none⟩
    let peer : Net.SocketAddress := ⟨.v4 [127, 0, 0, 1], 4000, 0⟩
    let registers : Exchange :=
      ⟨[[.data (Utf8.encode "POST /3 HTTP/1.1\r\nConnection: keep-alive\r")], [],
        [.fault .interrupted,
          .data (Utf8.encode "\nContent-Length: 16\r\n\r\nuser=a&passwd=bcGET")]], [[]]⟩
    let asks : Exchange := ⟨[[.data (Utf8.encode "GET /x HTTP/1.1\r\n\r\n")]], [[]]⟩
    ∃ o o' c', (accepted 0 peer {} 128 256).exchangeAll v ⟨{}, .memory, {}⟩ [registers, asks]
        = some ([o, o'], c') ∧
      o.keepAlive = true ∧ o.session.credentials.users = [("a", "bc")] ∧
      o'.keepAlive = false ∧ o'.received = asks.octets ∧
      ∃ c'', (accepted 1 peer {} 128 256).exchange v o.session (atOnce asks.octets [[]])
        = some (o', c'') := by
  intro nowhere v peer registers asks
  let known : Store.Session := ⟨⟨[("a", "bc")]⟩, .memory, { table := ⟨[("a", "bc")], false⟩ }⟩
  let o : Outcome := ⟨registers.octets, (Response.error .notFound true).encode, true, known⟩
  let o' : Outcome := ⟨asks.octets, (Response.error .notFound false).encode, false, known⟩
  have hfirst : ∃ c', (accepted 0 peer {} 128 256).exchange v ⟨{}, .memory, {}⟩ registers
      = some (o, c') ∧ c'.stream.accepting = [] :=
    exists_exchange (by decide +kernel) (Stream.plain_of_nil rfl) rfl rfl (by decide +kernel)
      (by decide +kernel) (by decide +kernel)
  obtain ⟨c₁, hfirst, haccepting⟩ := hfirst
  obtain ⟨-, hcreated, -, hplain⟩ := exchange_cases hfirst
  obtain ⟨-, hclean, hnothing⟩ := hplain (Stream.plain_of_nil rfl) rfl (by decide +kernel)
  have hsecond : ∃ c', (accepted 0 peer c₁.stream 128 256).exchange v known asks
      = some (o', c') ∧ c'.stream.accepting = [] :=
    exists_exchange (by decide +kernel) hclean hnothing haccepting (by decide +kernel)
      (by decide +kernel) (by decide +kernel)
  obtain ⟨c₂, hsecond, -⟩ := hsecond
  rw [← hcreated] at hsecond
  have hall : (accepted 0 peer {} 128 256).exchangeAll v ⟨{}, .memory, {}⟩ [registers, asks]
      = some ([o, o'], c₂) := by
    have hrest : c₁.exchangeAll v o.session [asks] = some ([o'], c₂) := by
      rw [exchangeAll, hsecond]
      rfl
    rw [exchangeAll, hfirst]
    simp only [hrest]
  obtain ⟨houtcomes, -⟩ := outcomes_independent hall
  obtain ⟨-, hanew, -⟩ := houtcomes [o] o' [] known rfl rfl
  exact ⟨o, o', c₂, hall, rfl, rfl, rfl, rfl, hanew 1 peer⟩

end Exchange
end Http
end SiteServer
