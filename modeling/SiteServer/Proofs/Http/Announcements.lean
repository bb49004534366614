import SiteServer.Http.Announcement
import SiteServer.Proofs.Http.Exchange
import SiteServer.Proofs.Http.Grammar
import SiteServer.Proofs.Http.Heads

/-!
# Announcements

A response says in its head whether the connection stays open.  Here it is shown where that
comes from.

* `parse_keepAlive`: the parser remembers that a line has asked to stay, of those it has read
  since it was made fresh, and no other line.
* `Site.respond_keepAlive`: an answer does what the request asks for, and after a bad request or
  a fault it never stays.
* `Receipt.announced?_head`: the head says what the response says.

A connection that has not answered since it was reset has read its request from the beginning
(`Heeding`), so that the line is one of the request itself.
-/

namespace SiteServer
namespace Http

/-- Among the octets is a line that asks to keep the connection open. -/
def AsksAmong (octets : Bytes) : Prop :=
  ∃ front line rest, octets = front ++ lineOctets line ++ rest ∧ AsksToStay line

theorem AsksAmong.append {octets : Bytes} (h : AsksAmong octets) (more : Bytes) :
    AsksAmong (octets ++ more) := by
  obtain ⟨front, line, rest, rfl, hline⟩ := h
  exact ⟨front, line, rest ++ more, List.append_assoc .., hline⟩

namespace ReceiveBuffer

variable {b b' : ReceiveBuffer} {start stop : Nat}

/-- A line that was found ends in front of its ending. -/
theorem exists_octets_of_nextLine (hs : b.Sound) (h : b.nextLine = (.complete start stop, b')) :
    ∃ front rest, b.data = front ++ (b.slice start stop ++ Bytes.crlf) ++ rest := by
  unfold nextLine at h
  split at h
  case h_1 n hn =>
    obtain ⟨line, rest, hrest, hlength, -, -⟩ := LineEnd.exists_line_of_scan hn
    cases h
    have hbegin := hs.lineBegin_le
    have hfit := hs.checked_le
    -- what was looked at before and what was found now are together the line
    obtain ⟨seen, hseen, hdrop⟩ : ∃ seen : Bytes, seen.length = b.checked - b.lineBegin ∧
        b.data.drop b.lineBegin = seen ++ line ++ (Bytes.crlf ++ rest) := by
      refine ⟨(b.data.drop b.lineBegin).take (b.checked - b.lineBegin), ?_, ?_⟩
      · rw [List.length_take, List.length_drop]
        simp only [size] at hfit
        omega
      · rw [List.append_assoc, ← List.append_assoc line, ← hrest]
        conv_lhs => rw [← List.take_append_drop (b.checked - b.lineBegin)
          (b.data.drop b.lineBegin), List.drop_drop, Nat.add_sub_cancel' hbegin]
    have hslice : b.slice b.lineBegin (b.checked + n) = seen ++ line := by
      rw [slice, hdrop, List.take_left']
      rw [List.length_append, hseen, hlength]
      omega
    refine ⟨b.data.take b.lineBegin, rest, ?_⟩
    rw [hslice, List.append_assoc, List.append_assoc, ← hdrop, List.take_append_drop]
  case h_2 => cases h
  case h_3 => cases h

end ReceiveBuffer

namespace Parser

open ReceiveBuffer

variable {d : Dialect} {p p' : Parser} {b b' : ReceiveBuffer} {turn : Turn} {request : Request}

/-! ## What the parser remembers -/

theorem keepAlive_requestLine (p : Parser) (d : Dialect) (line : List Char) :
    (p.requestLine d line).2.keepAlive = p.keepAlive := by
  unfold requestLine
  repeat' split
  all_goals rfl

/-- A header line that asks to stay is remembered, and no other line is. -/
theorem keepAlive_headerLine {line : List Char} {available : Nat}
    (h : (p.headerLine line available).2.keepAlive = true) :
    p.keepAlive = true ∨ AsksToStay line := by
  unfold headerLine at h
  split at h
  · repeat' split at h
    all_goals exact Or.inl h
  · split at h
    case h_1 value hvalue =>
      split at h
      case isTrue hstay => exact Or.inr ⟨value, fieldValue?_eq_some_iff.mp hvalue, hstay⟩
      case isFalse => exact Or.inl h
    case h_2 =>
      repeat' split at h
      all_goals exact Or.inl h

theorem keepAlive_lineTurn {line : Bytes} (h : (lineTurn p d line b).2.keepAlive = true) :
    p.keepAlive = true ∨ ∃ text, line = Utf8.encodeChars text ∧ AsksToStay text := by
  unfold lineTurn at h
  split at h
  case h_1 => exact Or.inl h
  case h_2 text hdecode =>
    have hline := (Utf8.decodeChars_eq_some_iff.mp hdecode)
    have hasks : (p.headerLine text (b.capacity - b.checked)).2.keepAlive = true →
        p.keepAlive = true ∨ AsksToStay text := keepAlive_headerLine
    have hsame := keepAlive_requestLine p d text
    split at h
    · refine Or.inl ?_
      split at h
      case h_1 hread =>
        rw [hread] at hsame
        exact hsame.symm.trans h
      case h_2 hread =>
        rw [hread] at hsame
        exact hsame.symm.trans h
    · refine (hasks ?_).imp_right fun hline' => ⟨text, hline, hline'⟩
      split at h
      all_goals
        rename_i hread
        rw [hread]
        exact h
    · exact Or.inl h

theorem keepAlive_advance (hs : b.Sound) (h : advance d p b = (turn, p', b'))
    (hstay : p'.keepAlive = true) : p.keepAlive = true ∨ AsksAmong b.data := by
  unfold advance at h
  split at h
  case isTrue =>
    unfold bodyTurn at h
    simp only at h
    split at h <;>
    · cases h
      exact Or.inl hstay
  case isFalse =>
    split at h
    case h_1 =>
      cases h
      exact Or.inl hstay
    case h_2 =>
      cases h
      exact Or.inl hstay
    case h_3 start stop b₁ hnext =>
      cases h
      obtain ⟨front, rest, hdata⟩ := exists_octets_of_nextLine hs hnext
      refine (keepAlive_lineTurn hstay).imp_right fun hline => ?_
      obtain ⟨text, hline, hasks⟩ := hline
      have hsame : b₁.beginLine.slice start stop = b.slice start stop := by
        rw [slice, slice]
        have hon := (nextLine_onward b).data_eq
        rw [hnext] at hon
        exact congrArg (fun data : Bytes => (data.drop start).take (stop - start)) hon
      refine ⟨front, text, rest, ?_, hasks⟩
      rw [hdata, ← hsame, hline]
      rfl

/-- What the parser remembers was among the octets that it has read. -/
theorem keepAlive_parse (hs : b.Sound) (hstay : (parse d p b).2.1.keepAlive = true) :
    p.keepAlive = true ∨ AsksAmong b.data := by
  fun_induction parse d p b with
  | case1 p b answer p' b' hturn => exact keepAlive_advance hs hturn hstay
  | case2 p b p' b' hturn ih =>
    obtain ⟨honward, hsound⟩ := advance_onward hs hturn
    rcases ih hsound hstay with hbefore | hasks
    · exact keepAlive_advance hs hturn hbefore
    · rw [honward.data_eq] at hasks
      exact Or.inr hasks

theorem keepAlive_of_lineTurn {line : Bytes}
    (h : (lineTurn p d line b).1 = .stop (.ok (.complete request))) :
    (lineTurn p d line b).2.keepAlive = request.keepAlive := by
  unfold lineTurn at h ⊢
  split at h
  · cases h
  · split at h
    · split at h <;> cases h
    · split at h <;> cases h
      rfl
    · cases h

/-- A request asks for what the parser remembers. -/
theorem keepAlive_of_complete (h : (parse d p b).1 = .ok (.complete request)) :
    (parse d p b).2.1.keepAlive = request.keepAlive := by
  fun_induction parse d p b with
  | case1 p b answer p' b' hturn =>
    obtain rfl : answer = .ok (.complete request) := h
    unfold advance at hturn
    split at hturn
    case isTrue =>
      unfold bodyTurn at hturn
      simp only at hturn
      split at hturn
      · cases hturn
      · cases hturn
        rfl
    case isFalse =>
      split at hturn
      · cases hturn
      · cases hturn
      case h_3 start stop b₁ _ =>
        simp only [Prod.mk.injEq] at hturn
        obtain ⟨hstop, rfl, rfl⟩ := hturn
        exact keepAlive_of_lineTurn hstop
  | case2 p b p' b' hturn ih => exact ih h

end Parser

/-! ## What an answer says -/

/-- An answer stays only if the request asks for it, and never after a bad request or a fault. -/
theorem Site.respond_keepAlive {σ : Type} [Store.UserStore σ] (s : Site) (files : Files.View)
    (request : Request) (users : σ) (h : (s.respond files request users).1.keepAlive = true) :
    request.keepAlive = true ∧ (s.respond files request users).1.status.mayKeepAlive = true := by
  unfold respond at h ⊢
  simp only at h ⊢
  split
  case h_1 contents hopen =>
    rw [hopen] at h
    exact ⟨h, rfl⟩
  case h_2 status hopen =>
    rw [hopen] at h
    exact (Bool.and_eq_true _ _).mp h

theorem Response.keepAlive_ofRefusal (e : Refusal) : (ofRefusal e).keepAlive = false := by
  cases e <;> rfl

/-- The head says what the response says. -/
theorem Receipt.announced?_head (r : Response) :
    announced? r.head =
      some ⟨r.status.code, r.status.reason, r.keepAlive, r.body.bytes.length⟩ := by
  have hcut : ∀ rest, Reply.cutHead? (Utf8.encode r.headText ++ rest)
      = some (Utf8.encode r.headText, rest) := by
    intro rest
    rw [Response.encode_headText]
    exact Reply.cutHead?_lines (fun line hline => Response.breakless_of_mem_octets hline) _
  simp only [announced?, Response.head, hcut, Option.bind_eq_bind, Option.bind_some,
    summary?_headText]

namespace Connection

variable {d : Dialect} {v : Service} {answered : Bool} {c : Connection}

/-! ## Where a connection can be -/

/-- What the parser of a connection remembers was read since the connection was accepted or
reset; and if it has not answered since, the parser has read all of that from the beginning. -/
structure Heeding (d : Dialect) (answered : Bool) (c : Connection) : Prop where
  sound : c.buffer.Sound
  asked : c.parser.keepAlive = true → AsksAmong c.buffer.data
  resumes : answered = false → Parser.Resumes d c.parser c.buffer

theorem heeding_fresh {d : Dialect} (capacity : Nat) (answered : Bool)
    (hparser : c.parser = .fresh) (hbuffer : c.buffer = .ofCapacity capacity) :
    Heeding d answered c := by
  refine ⟨?_, ?_, fun _ => ?_⟩
  · rw [hbuffer]
    exact ReceiveBuffer.sound_ofCapacity capacity
  · rw [hparser]
    intro h
    cases h
  · rw [hparser, hbuffer]
    exact Parser.resumes_fresh d capacity

theorem Heeding.read (h : Heeding d answered c) : Heeding d answered c.read.2 := by
  obtain ⟨taken, stream, hread, hroom, -, -⟩ := c.read_eq
  rw [hread]
  exact ⟨h.sound.append hroom, fun hstay => (h.asked hstay).append taken,
    fun hanswered => (h.resumes hanswered).append hroom⟩

/-- The response that is put on its way after what the parser has said. -/
inductive Answer (v : Service) (session : Store.Session) : Except Refusal Progress → Response → Prop
  | complete (request : Request) :
    Answer v session (.ok (.complete request)) (v.site.respond v.files request session).1
  | refused (e : Refusal) : Answer v session (.error e) (.ofRefusal e)

/-- A response is put on its way if its head fits. -/
theorem reply_cases (c : Connection) (r : Response) :
    ∃ need writer, c.reply r = (need, { c with writer, keepAlive := r.keepAlive }) ∧
      need ≠ .read ∧ (need = .write → c.writer.compose r = (.ok (), writer)) := by
  unfold reply
  cases hcompose : c.writer.compose r with
  | mk outcome writer =>
    cases outcome with
    | ok => exact ⟨_, _, rfl, by simp, fun _ => rfl⟩
    | error e => exact ⟨_, _, rfl, by simp, fun h => by cases h⟩

/-- Processing waits for more, or puts a response on its way. -/
theorem process_cases (c : Connection) (v : Service) (session : Store.Session) :
    ∃ result parser buffer, c.parser.parse v.dialect c.buffer = (result, parser, buffer) ∧
      ((result = .ok .incomplete ∧
          c.process v session = (.read, { c with parser, buffer }, session)) ∨
        ∃ r need writer session', Answer v session result r ∧
          c.process v session
            = (need, { c with parser, buffer, writer, keepAlive := r.keepAlive }, session') ∧
          need ≠ .read ∧ (need = .write → c.writer.compose r = (.ok (), writer))) := by
  rcases hparse : c.parser.parse v.dialect c.buffer with ⟨result, parser, buffer⟩
  refine ⟨result, parser, buffer, rfl, ?_⟩
  rcases result with e | (_ | request)
  · obtain ⟨need, writer, hreply, hneed, hcompose⟩ :=
      ({ c with parser, buffer } : Connection).reply_cases (.ofRefusal e)
    refine Or.inr ⟨_, need, writer, session, .refused e, ?_, hneed, hcompose⟩
    simp only [process, hparse, hreply]
  · refine Or.inl ⟨rfl, ?_⟩
    simp only [process, hparse]
  · obtain ⟨need, writer, hreply, hneed, hcompose⟩ :=
      ({ c with parser, buffer } : Connection).reply_cases
        (v.site.respond v.files request session).1
    refine Or.inr ⟨_, need, writer, (v.site.respond v.files request session).2,
      .complete request, ?_, hneed, hcompose⟩
    simp only [process, hparse, hreply]

/-- A response that processing has put on its way is the answer to what the parser has said. -/
theorem exists_sends_of_process {session session' : Store.Session} {c' : Connection}
    (h : c.process v session = (.write, c', session')) :
    ∃ r, Answer v session (c.parser.parse v.dialect c.buffer).1 r ∧ c'.writer.Sends r [] ∧
      c'.keepAlive = r.keepAlive ∧ c'.stream = c.stream := by
  obtain ⟨result, parser, buffer, hparse, ⟨-, hread⟩ |
    ⟨r, need, writer, session₁, hanswer, hreply, -, hcompose⟩⟩ := c.process_cases v session
  · rw [h] at hread
    cases hread
  · rw [h] at hreply
    cases hreply
    rw [hparse]
    exact ⟨r, hanswer, Writer.sends_of_compose (hcompose rfl), rfl, rfl⟩

/-- What the parser reads was there before, or asked for before. -/
theorem Heeding.parse (h : Heeding d answered c) (d' : Dialect) {result : Except Refusal Progress}
    {parser : Parser} {buffer : ReceiveBuffer}
    (hparse : c.parser.parse d' c.buffer = (result, parser, buffer)) :
    buffer.Sound ∧ buffer.data = c.buffer.data ∧
      (parser.keepAlive = true → AsksAmong c.buffer.data) := by
  obtain ⟨honward, hsound⟩ := Parser.parse_onward (d := d') (p := c.parser) h.sound
  have hstay := Parser.keepAlive_parse (d := d') (p := c.parser) h.sound
  rw [hparse] at honward hsound hstay
  exact ⟨hsound, honward.data_eq, fun hparser => (hstay hparser).elim h.asked fun hasks => hasks⟩

theorem Heeding.wait {session : Store.Session} (h : Heeding v.dialect answered c)
    (hneed : (c.process v session).1 = .read) :
    Heeding v.dialect answered (c.process v session).2.1 := by
  obtain ⟨result, parser, buffer, hparse, ⟨rfl, hprocess⟩ |
    ⟨r, need, writer, session', -, hprocess, hne, -⟩⟩ := c.process_cases v session
  · obtain ⟨hsound, hdata, hasked⟩ := h.parse v.dialect hparse
    rw [hprocess]
    exact ⟨hsound, hdata ▸ hasked, fun hanswered => (h.resumes hanswered).of_incomplete hparse⟩
  · rw [hprocess] at hneed
    exact absurd hneed hne

theorem Heeding.answer (h : Heeding d answered c) (v : Service) (session : Store.Session) :
    Heeding d true (c.process v session).2.1 := by
  obtain ⟨result, parser, buffer, hparse, hcases⟩ := c.process_cases v session
  obtain ⟨hsound, hdata, hasked⟩ := h.parse v.dialect hparse
  rcases hcases with ⟨-, hprocess⟩ | ⟨r, need, writer, session', -, hprocess, -, -⟩ <;>
  · rw [hprocess]
    exact ⟨hsound, hdata ▸ hasked, fun hanswered => by cases hanswered⟩

theorem Reached.heeding (h : Reached d answered c) : Heeding d answered c := by
  induction h with
  | accepted id peer stream readCapacity writeCapacity =>
    exact heeding_fresh readCapacity false rfl rfl
  | stream stream _ ih => exact ⟨ih.sound, ih.asked, ih.resumes⟩
  | read _ ih => exact ih.read
  | wait v session hv hneed _ ih =>
    subst hv
    exact ih.wait hneed
  | answer v session _ _ _ ih => exact ih.answer v session
  | write _ ih => exact ⟨ih.sound, ih.asked, ih.resumes⟩
  | reset _ _ => exact heeding_fresh _ false rfl rfl

/-! ## What is announced -/

/-- What is said by the head of a response that is on its way with `c'`, after `c` was
processed. -/
structure Announcement (v : Service) (answered : Bool) (c c' : Connection)
    (said : Receipt.Summary) : Prop where
  /-- The head can be read, and says this. -/
  announced : Receipt.announced? c'.writer.head = some said
  flag_iff : said.keepAlive = true ↔ c'.keepAlive = true
  /-- The connection stays only after a request that asks for it. -/
  asked : said.keepAlive = true → ∃ request,
    (c.parser.parse v.dialect c.buffer).1 = .ok (.complete request) ∧ request.keepAlive = true ∧
      AsksAmong c.buffer.data ∧
      (answered = false → ∃ (m : Message) (rest : Bytes), c.buffer.data = m.octets ++ rest ∧
        m.Describes v.dialect request ∧ ∃ line ∈ m.headers, AsksToStay line)
  code : said.keepAlive = true → said.code = 200 ∨ said.code = 403 ∨ said.code = 404
  refused : (∃ e, (c.parser.parse v.dialect c.buffer).1 = .error e) → said.keepAlive = false
  fault : said.code = 400 ∨ said.code = 500 → said.keepAlive = false

/-- The octets that a connection has read since it was reset are a request, if it is complete. -/
theorem Heeding.describes {request : Request} (h : Heeding d false c)
    (hparse : (c.parser.parse d c.buffer).1 = .ok (.complete request)) :
    ∃ (m : Message) (rest : Bytes), c.buffer.data = m.octets ++ rest ∧ m.Describes d request := by
  have hwhole := (h.resumes rfl).parse_eq_whole
  rw [hwhole] at hparse
  obtain ⟨m, rest, hdata, -, hdescribes⟩ :=
    (Parser.parse_complete_iff d c.buffer.capacity c.buffer.data h.sound.size_le request _).mp
      ⟨_, _, Prod.ext hparse rfl, rfl⟩
  exact ⟨m, rest, hdata, hdescribes⟩

/-- An answer stays only after a complete request that asks for it. -/
theorem Answer.keepAlive {session : Store.Session} {result : Except Refusal Progress}
    {r : Response} (h : Answer v session result r) (hstay : r.keepAlive = true) :
    r.status.mayKeepAlive = true ∧
      ∃ request, result = .ok (.complete request) ∧ request.keepAlive = true := by
  cases h with
  | complete request =>
    obtain ⟨hrequest, hstatus⟩ := v.site.respond_keepAlive v.files request session hstay
    exact ⟨hstatus, request, rfl, hrequest⟩
  | refused e =>
    rw [Response.keepAlive_ofRefusal] at hstay
    cases hstay

theorem code_of_mayKeepAlive {status : Status} (h : status.mayKeepAlive = true) :
    status.code = 200 ∨ status.code = 403 ∨ status.code = 404 := by
  cases status with
  | ok | forbidden | notFound => decide
  | badRequest | internalError => cases h

/-- Whenever a response is put on its way, its head announces what the flag of the connection
says, and that it stays only after a request that asks for it. -/
theorem Reached.announcement (h : Reached v.dialect answered c) {session session' : Store.Session}
    {c' : Connection} (hprocess : c.process v session = (.write, c', session')) :
    ∃ said, Announcement v answered c c' said := by
  have hheeding := h.heeding
  obtain ⟨r, hanswer, hsends, hflag, -⟩ := exists_sends_of_process hprocess
  refine ⟨⟨r.status.code, r.status.reason, r.keepAlive, r.body.bytes.length⟩, ?_, ?_, ?_, ?_,
    ?_, ?_⟩
  · rw [hsends.head_eq]
    exact Receipt.announced?_head r
  · rw [hflag]
  · intro hstay
    obtain ⟨-, request, hcomplete, hrequest⟩ := hanswer.keepAlive hstay
    have hparser := Parser.keepAlive_of_complete hcomplete
    refine ⟨request, hcomplete, hrequest, ?_, ?_⟩
    · exact (hheeding.parse v.dialect rfl).2.2 (hparser.trans hrequest)
    · rintro rfl
      obtain ⟨m, rest, hdata, hdescribes⟩ := hheeding.describes hcomplete
      exact ⟨m, rest, hdata, hdescribes, hdescribes.keepAlive.mp hrequest⟩
  · exact fun hstay => code_of_mayKeepAlive (hanswer.keepAlive hstay).1
  · rintro ⟨e, he⟩
    refine Bool.eq_false_iff.mpr fun hstay => ?_
    obtain ⟨-, request, hcomplete, -⟩ := hanswer.keepAlive hstay
    rw [he] at hcomplete
    cases hcomplete
  · intro hcode
    refine Bool.eq_false_iff.mpr fun hstay => ?_
    have hgood := code_of_mayKeepAlive (hanswer.keepAlive hstay).1
    simp only at hcode
    omega

/-! ## What is received -/

/-- When all of a response was sent, it is what the client has received last. -/
theorem Staged.ends_of_done {calls : List Call} {answer : Response} (h : Staged v calls c answer)
    (hleft : c.writer.toSend ≠ 0) {n : Nat} (hdone : c.write.1 = .done n) :
    ∃ earlier, c.write.2.stream.written = earlier ++ answer.encode := by
  have hwritten := h.write hleft 0
  rw [hdone] at hwritten
  cases hwritten with
  | @done _ answer' hstaged hnothing =>
    -- writing puts no other response on its way
    have hsame : [answer'] = [answer] := by
      rw [← hstaged.answers_eq, ← h.answers_eq, Call.sinceReset_concat rfl,
        Call.answers_concat_of_none rfl]
    obtain rfl := (List.cons.inj hsame).1
    obtain ⟨first, rest, -, -, hall⟩ := hstaged.accounted.created
    obtain ⟨older, -, -, hsent⟩ := hstaged.older
    refine ⟨first.before.stream.written ++ older.flatMap Response.encode, ?_⟩
    rw [hall, hsent, hstaged.sends.out_eq_encode_iff.mpr hnothing, List.append_assoc]

end Connection

end Http
end SiteServer
