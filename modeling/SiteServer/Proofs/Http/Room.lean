import SiteServer.Http.Reception
import SiteServer.Proofs.Http.Exchange
import SiteServer.Proofs.Http.Grammar
import SiteServer.Proofs.Http.Splitting

/-!
# Room for a body

When the parser has read the head of a request it knows how long the body is, and how much room
the buffer has for it.  If there is too little, the request is refused at once; if there is
enough, the body will find room, and the parser never waits for octets that cannot come.

* `IsHead`: the lines are the head of a request.
* `Parser.parse_head`: what the parser says to a head and the octets behind it.
* `Parser.parse_incomplete_of_lt`: before the octets that decide, it says nothing.
* `Reception.Roomy`, `Reception.roomy_run`: the body for which a parser waits has room, after
  each turn, each call and each act.
-/

namespace SiteServer
namespace Http

/-- The octets of a request line, header lines and the empty line. -/
def headOctets (start : List Char) (headers : List (List Char)) : Bytes :=
  lineOctets start ++ headers.flatMap lineOctets ++ Bytes.crlf

/-- The lines are the head of this request: with any body of the announced length they are this
request with that body. -/
def IsHead (d : Dialect) (start : List Char) (headers : List (List Char)) (request : Request) :
    Prop :=
  ∀ body : Bytes, body.length = request.contentLength →
    Message.Describes d ⟨start, headers, body⟩ { request with body }

namespace Parser

open ReceiveBuffer

variable {d : Dialect} {p p' q : Parser} {b b' : ReceiveBuffer} {turn : Turn} {capacity : Nat}
  {before after : Bytes} {start : List Char} {headers : List (List Char)} {request : Request}

/-! ## Heads -/

/-- The parser understands a head, and knows from it all of the request but the body. -/
theorem exists_of_isHead (h : IsHead d start headers request) :
    (∀ line ∈ start :: headers, IsLine line) ∧
      ∃ p q, fresh.requestLine d start = (.ok (), p) ∧
        headerLines { p with state := .headers } headers = some q ∧
        q.contentLength = request.contentLength ∧
        ∀ body, (q.finish body).1 = { request with body } := by
  have hlength : (List.replicate request.contentLength (0 : UInt8)).length
      = request.contentLength := List.length_replicate
  obtain ⟨hlines, p, q, hstart, hheaders, hbody, hrequest⟩ :=
    describes_iff.mp (h (List.replicate request.contentLength 0) hlength)
  refine ⟨hlines, p, q, hstart, hheaders, hbody.symm.trans hlength, fun body => ?_⟩
  exact congrArg (fun r : Request => { r with body }) hrequest.symm

theorem isHead_of_headerLines (hlines : ∀ line ∈ start :: headers, IsLine line)
    (hstart : fresh.requestLine d start = (.ok (), p))
    (hheaders : headerLines { p with state := .headers } headers = some q) :
    IsHead d start headers (q.finish []).1 :=
  fun _ hbody => describes_iff.mpr ⟨hlines, p, q, hstart, hheaders, hbody, rfl⟩

/-- The empty line leads to the body, if there is room for it. -/
theorem parse_end (hp : p.state = .headers) (hzero : p.contentLength ≠ 0) :
    parse d p (between capacity before (Bytes.crlf ++ after)) =
      if capacity < (before ++ Bytes.crlf).length + p.contentLength then
        (.error (.bodyTooLarge p.contentLength (capacity - (before ++ Bytes.crlf).length)), p,
          between capacity (before ++ Bytes.crlf) after)
      else parse d { p with state := .body } (between capacity (before ++ Bytes.crlf) after) := by
  by_cases hroom : capacity < (before ++ Bytes.crlf).length + p.contentLength
  · rw [if_pos hroom]
    exact parse_of_stop (advance_end_of_lt hp hzero hroom)
  · rw [if_neg hroom]
    have hturn : advance d p (between capacity before (Bytes.crlf ++ after)) = _ :=
      advance_end hp (Nat.le_of_not_lt hroom)
    rw [if_neg hzero] at hturn
    exact parse_of_again hturn

/-- **What the parser says to a head and the octets behind it.**  It has looked at all of the
head, whatever it says. -/
theorem parse_head (h : IsHead d start headers request) (hpos : 0 < request.contentLength)
    (capacity : Nat) (after : Bytes) :
    (parse d fresh (between capacity [] (headOctets start headers ++ after))).1 =
        (if capacity < (headOctets start headers).length + request.contentLength then
          .error (.bodyTooLarge request.contentLength
            (capacity - (headOctets start headers).length))
        else if after.length < request.contentLength then .ok .incomplete
        else .ok (.complete { request with body := after.take request.contentLength })) ∧
      (headOctets start headers).length
        ≤ (parse d fresh (between capacity [] (headOctets start headers ++ after))).2.2.checked := by
  obtain ⟨hlines, p, q, hstart, hheaders, hlength, hrequest⟩ := exists_of_isHead h
  rw [List.forall_mem_cons] at hlines
  have hread : parse d fresh (between capacity [] (headOctets start headers ++ after))
      = parse d q (between capacity (lineOctets start ++ headers.flatMap lineOctets)
          (Bytes.crlf ++ after)) := by
    simp only [headOctets, List.append_assoc]
    rw [parse_of_again (advance_start rfl hlines.1 hstart),
      parse_headers rfl hlines.2 hheaders, List.nil_append]
  have hanswer : (({ q with state := .body } : Parser).finish (after.take q.contentLength)).1
      = { request with body := after.take request.contentLength } :=
    (hrequest (after.take q.contentLength)).trans (by rw [hlength])
  rw [hread, parse_end (state_of_headerLines rfl hheaders) (by omega), ← headOctets]
  by_cases hroom : capacity < (headOctets start headers).length + request.contentLength
  · rw [if_pos (by omega), if_pos hroom, hlength]
    exact ⟨rfl, Nat.le_refl _⟩
  · rw [if_neg (by omega), if_neg hroom, parse_body rfl]
    by_cases hshort : after.length < request.contentLength
    · rw [if_pos (hlength.symm ▸ hshort), if_pos hshort]
      exact ⟨rfl, Nat.le_refl _⟩
    · rw [if_neg (hlength.symm ▸ hshort), if_neg hshort, ← hanswer]
      exact ⟨rfl, Nat.le_add_right _ _⟩

/-! ## Before the octets that decide -/

/-- As long as there are fewer octets than the parser has to look at, it needs more. -/
theorem parse_incomplete_of_lt (hs : b.Sound) (more : Bytes)
    (h : b.size < (parse d p (b.append more)).2.2.checked) :
    (parse d p b).1 = .ok .incomplete := by
  by_contra hanswer
  obtain ⟨hon, hsound⟩ := parse_onward (d := d) (p := p) hs
  rw [parse_append_of_answer hs more hanswer] at h
  have hlooked : (parse d p b).2.2.checked ≤ b.size := hon.size_eq ▸ hsound.checked_le
  exact Nat.not_lt.mpr hlooked h

/-! ## The body for which a parser waits -/

/-- If the parser waits for a body, there is room for it. -/
def Roomy (p : Parser) (b : ReceiveBuffer) : Prop :=
  p.state = .body → b.checked + p.contentLength ≤ b.capacity

theorem roomy_of_state_ne (h : p.state ≠ .body) : p.Roomy b := fun hbody => absurd hbody h

/-- A line that leads to a body leaves room for it. -/
theorem contentLength_le_of_headerLine {text : List Char} {available : Nat}
    (h : p.headerLine text available = (.ok .body, p')) :
    p' = p ∧ p.contentLength ≠ 0 ∧ p.contentLength ≤ available := by
  rcases headerLine_ok_cases h with ⟨hmore, -⟩ | ⟨rfl, rfl, ⟨hdone, -⟩ | ⟨-, hzero⟩⟩
  · cases hmore
  · cases hdone
  · refine ⟨rfl, hzero, Nat.le_of_not_lt fun hroom => ?_⟩
    rw [headerLine_nil_of_lt hzero hroom] at h
    cases h

/-- A line that cannot be read leaves the parser where it was. -/
theorem state_of_headerLine_error {text : List Char} {available : Nat} {e : Refusal}
    (h : p.headerLine text available = (.error e, p')) : p' = p := by
  unfold headerLine at h
  split at h
  · split at h
    · cases h
    · split at h <;> cases h
      rfl
  · split at h
    · split at h <;> cases h
    · split at h
      · split at h <;> cases h
        rfl
      · split at h <;> cases h

theorem state_requestLine (p : Parser) (d : Dialect) (text : List Char) :
    (p.requestLine d text).2.state = p.state := by
  unfold requestLine
  split
  · split
    · rfl
    · simp only
      split
      · split <;> rfl
      · rfl
  · rfl

/-- A line makes the parser wait for a body only if one was announced, and there is room for it. -/
theorem body_of_lineTurn {line : Bytes} (hp : p.state ≠ .body)
    (h : lineTurn p d line b = (turn, p')) (hbody : p'.state = .body) :
    turn = .again ∧ p'.contentLength ≠ 0 ∧ b.checked + p'.contentLength ≤ b.capacity := by
  unfold lineTurn at h
  split at h
  case h_1 =>
    cases h
    exact absurd hbody hp
  case h_2 text _ =>
    split at h
    case h_1 hstate =>
      have hsame := state_requestLine p d text
      split at h
      case h_1 hread =>
        cases h
        rw [hread] at hsame
        exact absurd (hsame.symm.trans hbody) hp
      case h_2 =>
        cases h
        cases hbody
    case h_2 hstate =>
      split at h
      case h_1 hread =>
        cases h
        rw [state_of_headerLine_error hread] at hbody
        exact absurd hbody hp
      case h_2 hread =>
        cases h
        exact absurd ((ne_nil_of_headerLine hread).2.symm.trans hbody) hp
      case h_3 hread =>
        cases h
        obtain ⟨rfl, hzero, hroom⟩ := contentLength_le_of_headerLine hread
        refine ⟨rfl, hzero, ?_⟩
        simp only
        omega
      case h_4 hread =>
        cases h
        rcases headerLine_ok_cases hread with ⟨hmore, -⟩ | ⟨-, rfl, -⟩
        · cases hmore
        · exact absurd hbody hp
    case h_3 hstate => exact absurd hstate hp

theorem roomy_lineTurn {line : Bytes} (hp : p.state ≠ .body)
    (h : lineTurn p d line b = (turn, p')) :
    (turn = .again → p'.Roomy b) ∧ (turn ≠ .again → p'.state ≠ .body) :=
  ⟨fun _ hbody => (body_of_lineTurn hp h hbody).2.2,
    fun hturn hbody => hturn (body_of_lineTurn hp h hbody).1⟩

/-- After a turn that does not end the call there is room for the body. -/
theorem roomy_advance_again (h : advance d p b = (.again, p', b')) : p'.Roomy b' := by
  unfold advance at h
  split at h
  case isTrue =>
    unfold bodyTurn at h
    dsimp only at h
    split at h <;> cases h
  case isFalse hp =>
    split at h
    case h_1 => cases h
    case h_2 => cases h
    case h_3 start stop b₁ hline =>
      cases hturn : lineTurn p d (b₁.beginLine.slice start stop) b₁.beginLine with
      | mk turn q =>
        simp only [hturn] at h
        cases h
        exact (roomy_lineTurn hp hturn).1 rfl

theorem roomy_advance_stop {answer : Except Refusal Progress} (hroomy : p.Roomy b)
    (h : advance d p b = (.stop answer, p', b')) :
    p'.Roomy b' ∨ (p'.state = .body ∧ ∃ request, answer = .ok (.complete request)) := by
  unfold advance at h
  split at h
  case isTrue hbody =>
    unfold bodyTurn at h
    dsimp only at h
    split at h
    case isTrue =>
      cases h
      exact Or.inl hroomy
    case isFalse =>
      cases h
      exact Or.inr ⟨hbody, _, rfl⟩
  case isFalse hp =>
    split at h
    case h_1 =>
      cases h
      exact Or.inl (roomy_of_state_ne hp)
    case h_2 =>
      cases h
      exact Or.inl (roomy_of_state_ne hp)
    case h_3 start stop b₁ hline =>
      cases hturn : lineTurn p d (b₁.beginLine.slice start stop) b₁.beginLine with
      | mk turn q =>
        simp only [hturn] at h
        cases h
        exact Or.inl (roomy_of_state_ne ((roomy_lineTurn hp hturn).2 nofun))

/-- After a call there is room for the body that the parser waits for, unless it was handed out. -/
theorem roomy_parse {answer : Except Refusal Progress} (hroomy : p.Roomy b)
    (h : parse d p b = (answer, p', b')) :
    p'.Roomy b' ∨ (p'.state = .body ∧ ∃ request, answer = .ok (.complete request)) := by
  fun_induction parse d p b with
  | case1 p b answer p₁ b₁ hturn =>
    cases h
    exact roomy_advance_stop hroomy hturn
  | case2 p b p₁ b₁ hturn ih => exact ih (roomy_advance_again hturn) h

/-- A parser that waits for a body after a call waits for octets that are not there. -/
theorem size_lt_of_incomplete (hs : b.Sound) (h : parse d p b = (.ok .incomplete, p', b'))
    (hbody : p'.state = .body) : b'.size < b'.checked + p'.contentLength := by
  have hagain := parse_of_incomplete hs h
  rw [parse] at hagain
  split at hagain
  case h_1 answer p₁ b₁ hturn =>
    cases hagain
    rw [advance, if_pos hbody, bodyTurn] at hturn
    dsimp only at hturn
    split at hturn
    case isTrue hshort => exact hshort
    case isFalse => cases hturn
  case h_2 p₁ b₁ hturn =>
    rw [advance, if_pos hbody, bodyTurn] at hturn
    dsimp only at hturn
    split at hturn <;> cases hturn

end Parser

/-! ## Receptions -/

namespace Reception

open ReceiveBuffer

variable {d : Dialect} {r : Reception} {capacity : Nat}

theorem step_fill_eq (d : Dialect) (r : Reception) (s : Stream) :
    ∃ taken : Bytes, r.step d (.fill s) = { r with buffer := r.buffer.append taken } ∧
      taken.length ≤ r.buffer.remaining := by
  rcases hfill : r.buffer.fill s with ⟨result, buffer, stream⟩
  obtain ⟨taken, rfl, hfits, -⟩ := fill_eq hfill
  exact ⟨taken, by simp only [Reception.step, hfill], hfits⟩

/-- The buffer is in order and as large as it was, and the body for which the parser waits has
room. -/
structure Roomy (capacity : Nat) (r : Reception) : Prop where
  sound : r.buffer.Sound
  capacity_eq : r.buffer.capacity = capacity
  room : r.delivered = false → r.parser.Roomy r.buffer

theorem roomy_ofCapacity (capacity : Nat) : (ofCapacity capacity).Roomy capacity :=
  ⟨sound_ofCapacity capacity, rfl, fun _ => Parser.roomy_of_state_ne nofun⟩

theorem Roomy.step (h : r.Roomy capacity) (a : Act) : (r.step d a).Roomy capacity := by
  cases a with
  | extend bytes => exact ⟨h.sound.extend bytes, h.capacity_eq, h.room⟩
  | fill s =>
    obtain ⟨taken, hstep, hfits⟩ := step_fill_eq d r s
    rw [hstep]
    exact ⟨h.sound.append hfits, h.capacity_eq, h.room⟩
  | parse =>
    obtain ⟨hon, hsound⟩ := Parser.parse_onward (d := d) (p := r.parser) h.sound
    have hcapacity := hon.capacity_eq.trans h.capacity_eq
    simp only [Reception.step]
    split
    case h_1 request parser buffer hparse =>
      rw [hparse] at hsound hcapacity
      refine ⟨hsound, hcapacity, fun hdelivered => ?_⟩
      rw [Bool.or_eq_false_iff, decide_eq_false_iff_not] at hdelivered
      exact Parser.roomy_of_state_ne hdelivered.2
    case h_2 answer parser buffer hother hparse =>
      rw [hparse] at hsound hcapacity
      refine ⟨hsound, hcapacity, fun hdelivered => ?_⟩
      rcases Parser.roomy_parse (h.room hdelivered) hparse with hroomy | ⟨-, request, rfl⟩
      · exact hroomy
      · exact absurd rfl (hother request)
  | clear =>
    refine ⟨sound_ofCapacity _, h.capacity_eq, fun hdelivered hbody => ?_⟩
    have hroom := h.room hdelivered hbody
    show 0 + r.parser.contentLength ≤ r.buffer.capacity
    omega
  | renew => exact ⟨h.sound, h.capacity_eq, fun _ => Parser.roomy_of_state_ne nofun⟩

theorem roomy_run (capacity : Nat) (d : Dialect) (acts : List Act) :
    ((ofCapacity capacity).run d acts).Roomy capacity := by
  have hrun : ∀ r : Reception, r.Roomy capacity → (r.run d acts).Roomy capacity := by
    induction acts with
    | nil => exact fun _ h => h
    | cons a acts ih => exact fun r h => ih _ (h.step a)
  exact hrun _ (roomy_ofCapacity capacity)

/-- Where the parser waits for a body, the buffer is not full. -/
theorem Roomy.not_body_of_isFull (h : r.Roomy capacity) (hdelivered : r.delivered = false)
    {p : Parser} {b : ReceiveBuffer} (hparse : r.parser.parse d r.buffer = (.ok .incomplete, p, b))
    (hfull : b.isFull = true) : p.state ≠ .body := by
  intro hbody
  have hshort := Parser.size_lt_of_incomplete h.sound hparse hbody
  rcases Parser.roomy_parse (h.room hdelivered) hparse with hroomy | ⟨-, request, hanswer⟩
  · have hroom := hroomy hbody
    rw [isFull, decide_eq_true_eq, remaining] at hfull
    omega
  · cases hanswer

end Reception

/-! ## Requests with a body -/

namespace Parser

open ReceiveBuffer

variable {d : Dialect} {start : List Char} {headers : List (List Char)} {request : Request}

/-- However a head and octets behind it are cut into pieces, the parser answers as soon as the
octets that decide are in the buffer. -/
theorem feed_head (h : IsHead d start headers request) (hpos : 0 < request.contentLength)
    {capacity : Nat} {tail : Bytes} {chunks : List Bytes}
    (hchunks : chunks.flatten <+: headOctets start headers ++ tail) :
    (feed d fresh (ofCapacity capacity) chunks).1 =
      if min chunks.flatten.length capacity < (headOctets start headers).length then
        .ok .incomplete
      else if capacity < (headOctets start headers).length + request.contentLength then
        .error (.bodyTooLarge request.contentLength
          (capacity - (headOctets start headers).length))
      else if min chunks.flatten.length capacity
          < (headOctets start headers).length + request.contentLength then .ok .incomplete
      else .ok (.complete { request with body := tail.take request.contentLength }) := by
  obtain ⟨rest, hrest⟩ := hchunks
  have hpieces : (feed d fresh (ofCapacity capacity) chunks).1
      = (parse d fresh ((ofCapacity capacity).extend chunks.flatten)).1 :=
    congrArg Standing.answer
      (standing_feed chunks (sound_ofCapacity capacity) (parse_fresh d capacity))
  have hbuffer : (ofCapacity capacity).extend chunks.flatten
      = between capacity [] (chunks.flatten.take capacity) := rfl
  have hall : headOctets start headers ++ tail
      = chunks.flatten.take capacity ++ (chunks.flatten.drop capacity ++ rest) := by
    rw [← List.append_assoc, List.take_append_drop, hrest]
  have hgot : (chunks.flatten.take capacity).length = min chunks.flatten.length capacity :=
    List.length_take.trans (Nat.min_comm ..)
  rw [hpieces, ← hgot]
  by_cases hhead : (chunks.flatten.take capacity).length < (headOctets start headers).length
  · -- the blank line has not come, or there is no room for it
    rw [if_pos hhead]
    have hlooked := (parse_head h hpos capacity tail).2
    rw [hall] at hlooked
    exact parse_incomplete_of_lt ((sound_ofCapacity capacity).extend _) _
      (Nat.lt_of_lt_of_le (hbuffer ▸ hhead) hlooked)
  · -- behind the head stands so much of the body as has come
    rw [if_neg hhead, hbuffer]
    generalize chunks.flatten.take capacity = got at hhead hall ⊢
    generalize chunks.flatten.drop capacity ++ rest = later at hall
    obtain ⟨after, hafter⟩ : headOctets start headers <+: got :=
      List.prefix_of_prefix_length_le (List.prefix_append _ tail)
        (hall ▸ List.prefix_append got later) (Nat.le_of_not_lt hhead)
    subst hafter
    obtain rfl : tail = after ++ later := by
      rw [List.append_assoc] at hall
      exact List.append_cancel_left hall
    rw [(parse_head h hpos capacity after).1]
    have hlength : (headOctets start headers ++ after).length
        < (headOctets start headers).length + request.contentLength ↔
          after.length < request.contentLength := by
      rw [List.length_append]
      omega
    simp only [hlength]
    split
    · rfl
    · split
      · rfl
      case isFalse hbody =>
        rw [List.take_append_of_le_length (Nat.le_of_not_lt hbody)]

/-- **A request is refused for its size exactly if it cannot fit, and a body that is waited for
has room.**  As soon as the empty line behind the header lines is in the buffer, and not
before, a body is refused if the buffer cannot hold it behind the head; otherwise the request is
complete as soon as its last octet is in the buffer.  Whatever else is done to a parser and its
buffer, a body that it waits for and has not handed out ends within the buffer, so that a full
buffer is not enough only in the request line and in the header lines. -/
theorem refused_iff_no_room (d : Dialect) (capacity : Nat) :
    (∀ (start : List Char) (headers : List (List Char)) (request : Request) (tail : Bytes)
        (chunks : List Bytes),
      IsHead d start headers request → 0 < request.contentLength →
      chunks.flatten <+: headOctets start headers ++ tail →
      let h := (headOctets start headers).length
      let n := request.contentLength
      let got := min chunks.flatten.length capacity
      (feed d fresh (ofCapacity capacity) chunks).1 =
        if got < h then .ok .incomplete
        else if capacity < h + n then .error (.bodyTooLarge n (capacity - h))
        else if got < h + n then .ok .incomplete
        else .ok (.complete { request with body := tail.take n })) ∧
    ∀ acts : List Reception.Act,
      let r := (Reception.ofCapacity capacity).run d acts
      r.delivered = false →
        (r.parser.state = .body → r.buffer.checked + r.parser.contentLength ≤ capacity) ∧
        ∀ p b, parse d r.parser r.buffer = (.ok .incomplete, p, b) → b.isFull = true →
          p.state ≠ .body := by
  constructor
  · intro start headers request tail chunks hhead hpos hchunks
    exact feed_head hhead hpos hchunks
  · intro acts r hdelivered
    have hroomy : r.Roomy capacity := Reception.roomy_run capacity d acts
    refine ⟨fun hbody => ?_, fun p b hparse hfull =>
      hroomy.not_body_of_isFull hdelivered hparse hfull⟩
    rw [← hroomy.capacity_eq]
    exact hroomy.room hdelivered hbody

/-- In a buffer of 41 octets a body of two fits behind a head of 39, and the largest length that
can be announced is refused.  A parser that waits for such a body has room for it. -/
theorem refused_iff_no_room_of_tight_buffer :
    let d : Dialect := ⟨"a", fun _ => none⟩
    let start := "POST /x HTTP/1.1".toList
    let two := "Content-Length: 2".toList
    let largest := "Content-Length: 18446744073709551615".toList
    let request (n : Nat) : Request := ⟨.post, "/x", "HTTP/1.1", none, n, false, []⟩
    IsHead d start [two] (request 2) ∧
      (feed d fresh (ofCapacity 41) [headOctets start [two], [97], [98]]).1
        = .ok (.complete { request 2 with body := [97, 98] }) ∧
      IsHead d start [largest] (request 18446744073709551615) ∧
      (feed d fresh (ofCapacity 60) [headOctets start [largest]]).1
        = .error (.bodyTooLarge 18446744073709551615 2) ∧
      let r := (Reception.ofCapacity 41).run d [.extend (headOctets start [two]), .parse]
      r.delivered = false ∧ r.parser.state = .body ∧
        r.buffer.checked + r.parser.contentLength ≤ 41 := by
  intro d start two largest request
  have hlines : ∀ length, IsLine length → ∀ line ∈ start :: [length], IsLine line := by
    intro length hlength
    exact List.forall_mem_cons.mpr ⟨⟨by decide, by decide⟩,
      List.forall_mem_singleton.mpr hlength⟩
  let told (n : Nat) : Parser :=
    { state := .headers, method := .post, path := some "/x", version := some "HTTP/1.1"
      contentLength := n }
  have htwo : IsHead d start [two] (request 2) :=
    isHead_of_headerLines (p := { told 0 with state := .requestLine }) (q := told 2)
      (hlines _ ⟨by decide, by decide⟩) (by decide +kernel) (by decide +kernel)
  have hlargest : IsHead d start [largest] (request 18446744073709551615) :=
    isHead_of_headerLines (p := { told 0 with state := .requestLine })
      (q := told 18446744073709551615)
      (hlines _ ⟨by decide, by decide⟩) (by decide +kernel) (by decide +kernel)
  obtain ⟨hfits, hroom⟩ := refused_iff_no_room d 41
  have hwaits := hroom [.extend (headOctets start [two]), .parse] (by decide +kernel)
  have hbody : ((Reception.ofCapacity 41).run d
      [.extend (headOctets start [two]), .parse]).parser.state = .body := by decide +kernel
  exact ⟨htwo,
    (hfits start [two] (request 2) [97, 98] _ htwo (by decide) (by decide)).trans
      (by decide +kernel),
    hlargest,
    ((refused_iff_no_room d 60).1 start [largest] (request 18446744073709551615) [] _ hlargest
      (by decide) (by decide)).trans (by decide +kernel),
    by decide +kernel, hbody, hwaits.1 hbody⟩

end Parser
end Http
end SiteServer
