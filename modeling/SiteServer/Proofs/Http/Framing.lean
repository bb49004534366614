import SiteServer.Proofs.Http.Cursors

/-!
# How requests are put together

A request is sent as lines, an empty line and a body.  Here it is shown that the parser
takes a request from the buffer exactly if the octets are put together in this way
(`Message.octets`) and the lines, one by one, are understood.  What the lines say is of no
concern here: `Parser.requestLine` and `Parser.headerLine` are only called.

The buffer is looked at between two lines: some octets have been read, and the others are
still to be read (`ReceiveBuffer.between`).  A turn of the parser takes the next line from
the octets to be read and gives it to those that have been read.

* `scan_line_append`, `exists_line_of_scan`: the scanner finds lines and nothing else.
* `advance_line`, `exists_line_of_advance`: so does a turn of the parser.
* `exists_headers_of_parse`, `parse_of_headers`: what follows the request line, by induction
  on the turns of the parser in one direction and on the header lines in the other.
* `parse_fresh_iff`: a request from its beginning.
-/

namespace SiteServer
namespace Http

/-! ## Lines -/

/-- Text that can be sent as a line: neither of the two octets that end lines is in it. -/
structure IsLine (text : List Char) : Prop where
  cr_notMem : Bytes.cr ∉ Utf8.encodeChars text
  lf_notMem : Bytes.lf ∉ Utf8.encodeChars text

theorem isLine_nil : IsLine [] := ⟨List.not_mem_nil, List.not_mem_nil⟩

/-- The octets of a line with its ending. -/
def lineOctets (text : List Char) : Bytes := Utf8.encodeChars text ++ Bytes.crlf

/-- A request as it is sent: the request line, the header lines and the body. -/
structure Message where
  start : List Char
  headers : List (List Char)
  body : Bytes

/-- The octets of a request. -/
def Message.octets (m : Message) : Bytes :=
  lineOctets m.start ++ m.headers.flatMap lineOctets ++ Bytes.crlf ++ m.body

namespace LineEnd

/-- The scanner finds the end of a line. -/
theorem scan_line_append {line : Bytes} (hcr : Bytes.cr ∉ line) (hlf : Bytes.lf ∉ line)
    (rest : Bytes) : scan (line ++ Bytes.crlf ++ rest) = found line.length := by
  induction line with
  | nil => rfl
  | cons c line ih =>
    have hc : c ≠ Bytes.cr := fun h => hcr (h ▸ List.mem_cons_self ..)
    have hc' : c ≠ Bytes.lf := fun h => hlf (h ▸ List.mem_cons_self ..)
    have hrest := ih (fun h => hcr (List.mem_cons_of_mem _ h))
      fun h => hlf (List.mem_cons_of_mem _ h)
    show scan (c :: (line ++ Bytes.crlf ++ rest)) = _
    unfold scan
    rw [if_neg hc, if_neg hc', hrest]
    rfl

/-- What the scanner finds the end of is a line. -/
theorem exists_line_of_scan {bytes : Bytes} {n : Nat} (h : scan bytes = found n) :
    ∃ line rest, bytes = line ++ Bytes.crlf ++ rest ∧ line.length = n ∧
      Bytes.cr ∉ line ∧ Bytes.lf ∉ line := by
  induction bytes generalizing n with
  | nil => cases h
  | cons c bytes ih =>
    unfold scan at h
    split at h
    case isTrue hc =>
      split at h
      case h_1 => cases h
      case h_2 e rest =>
        split at h
        case isTrue he =>
          cases h
          exact ⟨[], rest, by rw [hc, he]; rfl, rfl, List.not_mem_nil, List.not_mem_nil⟩
        case isFalse => cases h
    case isFalse hc =>
      split at h
      case isTrue => cases h
      case isFalse hc' =>
        cases hscan : scan bytes with
        | found m =>
          rw [hscan] at h
          cases h
          obtain ⟨line, rest, hbytes, hlength, hcr, hlf⟩ := ih hscan
          refine ⟨c :: line, rest, by rw [hbytes]; rfl, by rw [List.length_cons, hlength], ?_, ?_⟩
          · exact List.not_mem_cons_of_ne_of_not_mem (Ne.symm hc) hcr
          · exact List.not_mem_cons_of_ne_of_not_mem (Ne.symm hc') hlf
        | missing m =>
          rw [hscan] at h
          cases h
        | broken m =>
          rw [hscan] at h
          cases h

end LineEnd

namespace ReceiveBuffer

/-- A buffer in which the octets `before` have been read and the octets `after` have not. -/
def between (capacity : Nat) (before after : Bytes) : ReceiveBuffer :=
  ⟨before ++ after, capacity, before.length, before.length⟩

theorem nextLine_between (capacity : Nat) (before after : Bytes) :
    (between capacity before after).nextLine =
      match LineEnd.scan after with
      | .found n => (.complete before.length (before.length + n),
          { between capacity before after with checked := before.length + n + 2 })
      | .missing n =>
        (.incomplete, { between capacity before after with checked := before.length + n })
      | .broken n =>
        (.malformed, { between capacity before after with checked := before.length + n }) := by
  have hdrop : (before ++ after).drop before.length = after := List.drop_left ..
  cases hscan : LineEnd.scan after <;> simp only [nextLine, between, hdrop, hscan]

theorem slice_between (capacity : Nat) (before line after : Bytes) :
    (between capacity (before ++ (line ++ Bytes.crlf)) after).slice before.length
      (before.length + line.length) = line := by
  simp only [slice, between, List.append_assoc, List.drop_left, Nat.add_sub_cancel_left,
    List.take_left]

end ReceiveBuffer

namespace Parser

open ReceiveBuffer

variable {d : Dialect} {p p' q : Parser} {b' : ReceiveBuffer} {turn : Turn} {capacity : Nat}
  {before after : Bytes} {text : List Char} {request : Request}

/-! ## Turns -/

/-- A turn takes the next line. -/
theorem advance_line (hp : p.state ≠ .body) {line : Bytes} (hcr : Bytes.cr ∉ line)
    (hlf : Bytes.lf ∉ line) :
    advance d p (between capacity before (line ++ Bytes.crlf ++ after)) =
      ((lineTurn p d line (between capacity (before ++ (line ++ Bytes.crlf)) after)).1,
        (lineTurn p d line (between capacity (before ++ (line ++ Bytes.crlf)) after)).2,
        between capacity (before ++ (line ++ Bytes.crlf)) after) := by
  have hnext : beginLine { between capacity before (line ++ Bytes.crlf ++ after) with
        checked := before.length + line.length + 2 }
      = between capacity (before ++ (line ++ Bytes.crlf)) after := by
    simp only [beginLine, between, List.length_append, List.append_assoc,
      ReceiveBuffer.mk.injEq, true_and]
    exact ⟨Nat.add_assoc .., Nat.add_assoc ..⟩
  unfold advance
  rw [if_neg hp, nextLine_between, LineEnd.scan_line_append hcr hlf after]
  simp only [hnext, slice_between]

/-- A turn that has understood something has taken a line. -/
theorem exists_line_of_advance (hp : p.state ≠ .body)
    (h : advance d p (between capacity before after) = (turn, p', b'))
    (hturn : turn = .again ∨ ∃ request, turn = .stop (.ok (.complete request))) :
    ∃ text after', IsLine text ∧ after = lineOctets text ++ after' ∧
      b' = between capacity (before ++ lineOctets text) after' ∧
      lineTurn p d (Utf8.encodeChars text) b' = (turn, p') := by
  cases hscan : LineEnd.scan after with
  | found n =>
    obtain ⟨line, rest, rfl, -, hcr, hlf⟩ := LineEnd.exists_line_of_scan hscan
    rw [advance_line hp hcr hlf, Prod.mk.injEq, Prod.mk.injEq] at h
    obtain ⟨hfirst, hsecond, rfl⟩ := h
    cases hdecode : Utf8.decodeChars line with
    | none =>
      rw [lineTurn, hdecode] at hfirst
      rcases hturn with rfl | ⟨request, rfl⟩ <;> cases hfirst
    | some text =>
      obtain rfl := Utf8.decodeChars_eq_some_iff.mp hdecode
      exact ⟨text, rest, ⟨hcr, hlf⟩, rfl, rfl, Prod.ext hfirst hsecond⟩
  | missing n =>
    unfold advance at h
    rw [if_neg hp, nextLine_between, hscan] at h
    cases h
    rcases hturn with hturn | ⟨request, hturn⟩ <;> cases hturn
  | broken n =>
    unfold advance at h
    rw [if_neg hp, nextLine_between, hscan] at h
    cases h
    rcases hturn with hturn | ⟨request, hturn⟩ <;> cases hturn

/-! ## The body -/

/-- A parser that waits for the body takes as many octets as were announced, once they are
there. -/
theorem parse_body (hp : p.state = .body) :
    parse d p (between capacity before after) =
      if after.length < p.contentLength then (.ok .incomplete, p, between capacity before after)
      else
        (.ok (.complete (p.finish (after.take p.contentLength)).1),
          (p.finish (after.take p.contentLength)).2,
          { between capacity before after with
            checked := before.length + p.contentLength
            lineBegin := before.length + p.contentLength }) := by
  have hturn : advance d p (between capacity before after)
      = bodyTurn p (between capacity before after) := if_pos hp
  have hsize : (between capacity before after).size = before.length + after.length :=
    List.length_append
  have hslice : (between capacity before after).slice (between capacity before after).checked
      ((between capacity before after).checked + p.contentLength)
        = after.take p.contentLength := by
    simp only [slice, between, List.drop_left, Nat.add_sub_cancel_left]
  by_cases hshort : after.length < p.contentLength
  · rw [if_pos hshort]
    refine parse_of_stop (hturn.trans ?_)
    unfold bodyTurn
    rw [if_pos (by rw [hsize]; simp only [between]; omega)]
  · rw [if_neg hshort]
    refine parse_of_stop (hturn.trans ?_)
    unfold bodyTurn
    rw [if_neg (by rw [hsize]; simp only [between]; omega)]
    simp only [hslice]
    rfl

/-- Where a body is due, a request is handed out if and only if all octets of the body are there. -/
theorem parse_body_iff (hp : p.state = .body) {k : Nat} :
    (∃ p' b', parse d p (between capacity before after) = (.ok (.complete request), p', b') ∧
        b'.checked = k) ↔
      ∃ body rest, after = body ++ rest ∧ body.length = p.contentLength ∧
        request = (p.finish body).1 ∧ k = before.length + body.length := by
  rw [parse_body hp]
  constructor
  · rintro ⟨p', b', heq, rfl⟩
    split at heq
    case isTrue => cases heq
    case isFalse hfits =>
      have hlength : (after.take p.contentLength).length = p.contentLength :=
        List.length_take_of_le (Nat.le_of_not_lt hfits)
      cases heq
      exact ⟨_, after.drop p.contentLength, (List.take_append_drop ..).symm, hlength, rfl,
        by rw [hlength]⟩
  · rintro ⟨body, rest, rfl, hbody, rfl, rfl⟩
    rw [if_neg (by rw [List.length_append]; omega), ← hbody, List.take_left]
    exact ⟨_, _, rfl, rfl⟩

/-! ## Header lines -/

/-- Where a line can lead: a header line to the next line, the empty line to the end of the
request or to its body. -/
theorem headerLine_ok_cases {available : Nat} {effect : HeaderEffect}
    (h : p.headerLine text available = (.ok effect, p')) :
    (effect = .more ∧ text ≠ [] ∧ p'.state = p.state) ∨
      (text = [] ∧ p' = p ∧ ((effect = .done ∧ p.contentLength = 0) ∨
        (effect = .body ∧ p.contentLength ≠ 0))) := by
  unfold headerLine at h
  split at h
  case isTrue htext =>
    refine Or.inr ⟨htext, ?_⟩
    split at h
    case isTrue hzero =>
      cases h
      exact ⟨rfl, Or.inl ⟨rfl, hzero⟩⟩
    case isFalse hzero =>
      split at h
      case isTrue => cases h
      case isFalse =>
        cases h
        exact ⟨rfl, Or.inr ⟨rfl, hzero⟩⟩
  case isFalse htext =>
    refine Or.inl ?_
    split at h
    case h_1 =>
      split at h <;> cases h <;> exact ⟨rfl, htext, rfl⟩
    case h_2 =>
      split at h
      case h_1 =>
        split at h <;> cases h
        exact ⟨rfl, htext, rfl⟩
      case h_2 =>
        split at h <;> cases h <;> exact ⟨rfl, htext, rfl⟩

theorem ne_nil_of_headerLine {available : Nat}
    (h : p.headerLine text available = (.ok .more, p')) : text ≠ [] ∧ p'.state = p.state := by
  rcases headerLine_ok_cases h with ⟨-, hmore⟩ | ⟨-, -, ⟨heffect, -⟩ | ⟨heffect, -⟩⟩
  · exact hmore
  · cases heffect
  · cases heffect

theorem headerLine_of_ne_nil (htext : text ≠ []) (available room : Nat) :
    p.headerLine text available = p.headerLine text room := by
  unfold headerLine
  rw [if_neg htext, if_neg htext]

/-- After the header lines the empty line leads to the end of the request, or to a body for
which there is room. -/
theorem headerLine_nil {available : Nat} (hroom : p.contentLength ≤ available) :
    p.headerLine [] available = (.ok (if p.contentLength = 0 then .done else .body), p) := by
  unfold headerLine
  rw [if_pos rfl]
  by_cases hzero : p.contentLength = 0
  · rw [if_pos hzero, if_pos hzero]
  · rw [if_neg hzero, if_neg hzero, if_neg (Nat.not_lt.mpr hroom)]

theorem headerLine_nil_of_lt {available : Nat} (hzero : p.contentLength ≠ 0)
    (hroom : available < p.contentLength) :
    p.headerLine [] available = (.error (.bodyTooLarge p.contentLength available), p) := by
  rw [headerLine, if_pos rfl, if_neg hzero, if_pos hroom]

/-- Reads header lines, one after another. -/
def headerLines (p : Parser) : List (List Char) → Option Parser
  | [] => some p
  | line :: lines =>
    match p.headerLine line 0 with
    | (.ok .more, p) => headerLines p lines
    | _ => none

theorem headerLines_cons_eq_some {lines : List (List Char)} :
    headerLines p (text :: lines) = some q ↔
      ∃ p', p.headerLine text 0 = (.ok .more, p') ∧ headerLines p' lines = some q := by
  constructor
  · intro h
    unfold headerLines at h
    split at h
    case h_1 p' hline => exact ⟨p', hline, h⟩
    case h_2 => cases h
  · rintro ⟨p', hline, h⟩
    rw [headerLines, hline]
    exact h

theorem lineTurn_headers (hp : p.state = .headers) (text : List Char) (b : ReceiveBuffer) :
    lineTurn p d (Utf8.encodeChars text) b =
      match p.headerLine text (b.capacity - b.checked) with
      | (.error e, p) => (.stop (.error e), p)
      | (.ok .more, p) => (.again, p)
      | (.ok .body, p) => (.again, { p with state := .body })
      | (.ok .done, p) => (.stop (.ok (.complete (p.finish []).1)), (p.finish []).2) := by
  rcases hread : p.headerLine text (b.capacity - b.checked) with ⟨_ | _ | _ | _, p'⟩ <;>
    simp only [lineTurn, Utf8.decodeChars_encodeChars, hp, hread]

/-- What the parser takes after the request line are header lines, the empty line and the
body. -/
theorem exists_headers_of_parse (hp : p.state = .headers)
    (h : parse d p (between capacity before after) = (.ok (.complete request), p', b')) :
    ∃ headers body rest q,
      after = headers.flatMap lineOctets ++ Bytes.crlf ++ body ++ rest ∧
      (∀ line ∈ headers, IsLine line) ∧ headerLines p headers = some q ∧
      body.length = q.contentLength ∧ request = (q.finish body).1 ∧
      b'.checked = (before ++ (headers.flatMap lineOctets ++ Bytes.crlf ++ body)).length := by
  generalize hb : between capacity before after = b at h
  fun_induction parse d p b generalizing before after with
  | case1 p b answer p₁ b₁ hturn =>
    cases h
    subst hb
    obtain ⟨text, after, htext, rfl, rfl, hline⟩ :=
      exists_line_of_advance (by rw [hp]; decide) hturn (Or.inr ⟨_, rfl⟩)
    rw [lineTurn_headers hp] at hline
    split at hline
    case h_1 => cases hline
    case h_2 => cases hline
    case h_3 => cases hline
    case h_4 p₂ hread =>
      cases hline
      rcases headerLine_ok_cases hread with ⟨hmore, -⟩ | ⟨rfl, rfl, ⟨-, hzero⟩ | ⟨hbody, -⟩⟩
      · cases hmore
      · exact ⟨[], [], after, p₂, by simp [lineOctets], List.forall_mem_nil _, rfl,
          hzero.symm, rfl, by simp [lineOctets, between]⟩
      · cases hbody
  | case2 p b p₁ b₁ hturn ih =>
    subst hb
    obtain ⟨text, after, htext, rfl, rfl, hline⟩ :=
      exists_line_of_advance (by rw [hp]; decide) hturn (Or.inl rfl)
    rw [lineTurn_headers hp] at hline
    split at hline
    case h_1 => cases hline
    case h_4 => cases hline
    case h_2 p₂ hread =>
      cases hline
      obtain ⟨hne, hstate⟩ := ne_nil_of_headerLine hread
      obtain ⟨headers, body, rest, q, rfl, hlines, hheaders, hlength, hrequest, hchecked⟩ :=
        ih (hstate.trans hp) rfl h
      rw [headerLine_of_ne_nil hne _ 0] at hread
      refine ⟨text :: headers, body, rest, q, ?_, ?_, ?_, hlength, hrequest, ?_⟩
      · simp only [List.flatMap_cons, List.append_assoc]
      · rw [List.forall_mem_cons]
        exact ⟨htext, hlines⟩
      · exact headerLines_cons_eq_some.mpr ⟨_, hread, hheaders⟩
      · rw [hchecked]
        simp only [List.flatMap_cons, List.append_assoc]
    case h_3 p₂ hread =>
      cases hline
      rcases headerLine_ok_cases hread with ⟨hmore, -⟩ | ⟨rfl, rfl, ⟨hdone, -⟩ | ⟨-, -⟩⟩
      · cases hmore
      · cases hdone
      · obtain ⟨body, rest, rfl, hlength, hrequest, hk⟩ := (parse_body_iff rfl).mp ⟨_, _, h, rfl⟩
        refine ⟨[], body, rest, p₂, by simp [lineOctets], List.forall_mem_nil _, rfl, hlength,
          hrequest, ?_⟩
        rw [hk]
        simp [lineOctets, Nat.add_assoc]

theorem advance_header (hp : p.state = .headers) (htext : IsLine text)
    (hread : p.headerLine text 0 = (.ok .more, p')) :
    advance d p (between capacity before (lineOctets text ++ after))
      = (.again, p', between capacity (before ++ lineOctets text) after) := by
  obtain ⟨hne, -⟩ := ne_nil_of_headerLine hread
  rw [lineOctets, advance_line (by rw [hp]; decide) htext.cr_notMem htext.lf_notMem,
    lineTurn_headers hp, headerLine_of_ne_nil hne _ 0, hread]

/-- The empty line leads to the end of the request or to its body. -/
theorem advance_end (hp : p.state = .headers)
    (hroom : (before ++ Bytes.crlf).length + p.contentLength ≤ capacity) :
    advance d p (between capacity before (Bytes.crlf ++ after)) =
      if p.contentLength = 0 then
        (.stop (.ok (.complete (p.finish []).1)), (p.finish []).2,
          between capacity (before ++ Bytes.crlf) after)
      else (.again, { p with state := .body }, between capacity (before ++ Bytes.crlf) after) := by
  show advance d p (between capacity before (Utf8.encodeChars [] ++ Bytes.crlf ++ after)) = _
  rw [advance_line (by rw [hp]; decide) isLine_nil.cr_notMem isLine_nil.lf_notMem,
    lineTurn_headers hp, headerLine_nil]
  · by_cases hzero : p.contentLength = 0
    · rw [if_pos hzero, if_pos hzero]
      rfl
    · rw [if_neg hzero, if_neg hzero]
      rfl
  · show p.contentLength ≤ capacity - (before ++ Bytes.crlf).length
    omega

/-- Without room for the body the empty line leads no further. -/
theorem advance_end_of_lt (hp : p.state = .headers) (hzero : p.contentLength ≠ 0)
    (hroom : capacity < (before ++ Bytes.crlf).length + p.contentLength) :
    advance d p (between capacity before (Bytes.crlf ++ after)) =
      (.stop (.error (.bodyTooLarge p.contentLength (capacity - (before ++ Bytes.crlf).length))),
        p, between capacity (before ++ Bytes.crlf) after) := by
  show advance d p (between capacity before (Utf8.encodeChars [] ++ Bytes.crlf ++ after)) = _
  rw [advance_line (by rw [hp]; decide) isLine_nil.cr_notMem isLine_nil.lf_notMem,
    lineTurn_headers hp, headerLine_nil_of_lt hzero]
  · rfl
  · show capacity - (before ++ Bytes.crlf).length < p.contentLength
    omega

/-- Header lines that are understood are taken one after another. -/
theorem parse_headers {headers : List (List Char)} (hp : p.state = .headers)
    (hlines : ∀ line ∈ headers, IsLine line) (hread : headerLines p headers = some q) :
    parse d p (between capacity before (headers.flatMap lineOctets ++ after))
      = parse d q (between capacity (before ++ headers.flatMap lineOctets) after) := by
  induction headers generalizing p before with
  | nil =>
    obtain rfl : p = q := Option.some.inj hread
    rw [List.flatMap_nil, List.nil_append, List.append_nil]
  | cons text headers ih =>
    obtain ⟨p₁, hline, hread⟩ := headerLines_cons_eq_some.mp hread
    rw [List.forall_mem_cons] at hlines
    have hstate : p₁.state = .headers := (ne_nil_of_headerLine hline).2.trans hp
    rw [List.flatMap_cons, List.append_assoc, parse_of_again (advance_header hp hlines.1 hline),
      ih hstate hlines.2 hread, List.append_assoc]

theorem state_of_headerLines {headers : List (List Char)} (hp : p.state = .headers)
    (hread : headerLines p headers = some q) : q.state = .headers := by
  induction headers generalizing p with
  | nil => exact Option.some.inj hread ▸ hp
  | cons text headers ih =>
    obtain ⟨p₁, hline, hread⟩ := headerLines_cons_eq_some.mp hread
    exact ih ((ne_nil_of_headerLine hline).2.trans hp) hread

/-- Header lines, the empty line and the body are taken by the parser. -/
theorem parse_of_headers {headers : List (List Char)} {body : Bytes} (rest : Bytes)
    (hp : p.state = .headers)
    (hfits : (before ++ (headers.flatMap lineOctets ++ Bytes.crlf ++ body)).length ≤ capacity)
    (hlines : ∀ line ∈ headers, IsLine line) (hread : headerLines p headers = some q)
    (hbody : body.length = q.contentLength) :
    ∃ p' b', parse d p (between capacity before
          (headers.flatMap lineOctets ++ Bytes.crlf ++ body ++ rest))
        = (.ok (.complete (q.finish body).1), p', b') ∧
      b'.checked = (before ++ (headers.flatMap lineOctets ++ Bytes.crlf ++ body)).length := by
  simp only [List.append_assoc, List.length_append] at hfits ⊢
  rw [parse_headers hp hlines hread]
  have hturn : advance d q (between capacity (before ++ headers.flatMap lineOctets)
      (Bytes.crlf ++ (body ++ rest))) = _ :=
    advance_end (state_of_headerLines hp hread) (by simp only [List.length_append]; omega)
  by_cases hzero : q.contentLength = 0
  · rw [if_pos hzero] at hturn
    have hempty : body = [] := List.length_eq_zero_iff.mp (hbody.trans hzero)
    subst hempty
    refine ⟨_, _, parse_of_stop hturn, ?_⟩
    simp only [between, List.length_append, List.length_nil, Nat.add_assoc, Nat.add_zero]
  · rw [if_neg hzero] at hturn
    obtain ⟨p', b', hdone, hchecked⟩ :
        ∃ p' b', parse d { q with state := .body }
            (between capacity (before ++ headers.flatMap lineOctets ++ Bytes.crlf) (body ++ rest))
          = (.ok (.complete (q.finish body).1), p', b') ∧
          b'.checked
            = (before ++ headers.flatMap lineOctets ++ Bytes.crlf).length + body.length :=
      (parse_body_iff rfl).mpr ⟨body, rest, rfl, hbody, rfl, rfl⟩
    refine ⟨p', b', (parse_of_again hturn).trans hdone, ?_⟩
    simp only [hchecked, List.length_append, Nat.add_assoc]

/-! ## Requests -/

theorem lineTurn_requestLine (hp : p.state = .requestLine) (text : List Char)
    (b : ReceiveBuffer) :
    lineTurn p d (Utf8.encodeChars text) b =
      match p.requestLine d text with
      | (.error e, p) => (.stop (.error e), p)
      | (.ok (), p) => (.again, { p with state := .headers }) := by
  rcases hread : p.requestLine d text with ⟨_ | _, p'⟩ <;>
    simp only [lineTurn, Utf8.decodeChars_encodeChars, hp, hread]

theorem advance_start (hp : p.state = .requestLine) (htext : IsLine text)
    (hread : p.requestLine d text = (.ok (), p')) :
    advance d p (between capacity before (lineOctets text ++ after))
      = (.again, { p' with state := .headers },
        between capacity (before ++ lineOctets text) after) := by
  rw [lineOctets, advance_line (by rw [hp]; decide) htext.cr_notMem htext.lf_notMem,
    lineTurn_requestLine hp, hread]

theorem ofCapacity_extend {octets : Bytes} (h : octets.length ≤ capacity) :
    (ofCapacity capacity).extend octets = between capacity [] octets := by
  have htaken : octets.take (ofCapacity capacity).remaining = octets := List.take_of_length_le h
  rw [extend, htaken]
  rfl

/-- **The parser takes what is put together as a request.**  A fresh parser takes a request
from a buffer, and the scanner then stands at `k`, if and only if the first `k` octets are
those of a message with lines that are understood and a body of the announced length. -/
theorem parse_fresh_iff {octets : Bytes} (hfits : octets.length ≤ capacity) {k : Nat} :
    (∃ p b, parse d fresh ((ofCapacity capacity).extend octets)
        = (.ok (.complete request), p, b) ∧ b.checked = k) ↔
      ∃ (m : Message) (rest : Bytes) (p q : Parser),
        octets = m.octets ++ rest ∧ m.octets.length = k ∧
        (∀ line ∈ m.start :: m.headers, IsLine line) ∧
        fresh.requestLine d m.start = (.ok (), p) ∧
        headerLines { p with state := .headers } m.headers = some q ∧
        m.body.length = q.contentLength ∧ request = (q.finish m.body).1 := by
  rw [ofCapacity_extend hfits]
  have hfresh : fresh.state ≠ .body := by decide
  constructor
  · rintro ⟨p', b', hparse, rfl⟩
    rw [parse] at hparse
    split at hparse
    case h_1 answer p₁ b₁ hturn =>
      cases hparse
      obtain ⟨text, after, htext, -, -, hline⟩ :=
        exists_line_of_advance hfresh hturn (Or.inr ⟨_, rfl⟩)
      rw [lineTurn_requestLine rfl] at hline
      split at hline <;> cases hline
    case h_2 p₁ b₁ hturn =>
      obtain ⟨text, after, htext, rfl, rfl, hline⟩ :=
        exists_line_of_advance hfresh hturn (Or.inl rfl)
      rw [lineTurn_requestLine rfl] at hline
      split at hline
      case h_1 => cases hline
      case h_2 p hread =>
        cases hline
        obtain ⟨headers, body, rest, q, rfl, hlines, hheaders, hlength, hrequest, hchecked⟩ :=
          exists_headers_of_parse rfl hparse
        refine ⟨⟨text, headers, body⟩, rest, p, q, ?_, ?_, ?_, hread, hheaders, hlength,
          hrequest⟩
        · simp only [Message.octets, List.append_assoc]
        · rw [hchecked]
          simp only [Message.octets, List.nil_append, List.append_assoc]
        · exact List.forall_mem_cons.mpr ⟨htext, hlines⟩
  · rintro ⟨m, rest, p, q, rfl, rfl, hlines, hread, hheaders, hlength, rfl⟩
    rw [List.forall_mem_cons] at hlines
    have hall : (lineOctets m.start
        ++ (m.headers.flatMap lineOctets ++ Bytes.crlf ++ m.body)).length ≤ capacity := by
      simp only [Message.octets, List.length_append] at hfits ⊢
      omega
    obtain ⟨p', b', hparse, hchecked⟩ := parse_of_headers rest rfl hall hlines.2 hheaders hlength
    simp only [Message.octets, List.append_assoc] at hparse hchecked ⊢
    rw [parse_of_again (advance_start rfl hlines.1 hread)]
    exact ⟨p', b', hparse, hchecked⟩

end Parser
end Http
end SiteServer
