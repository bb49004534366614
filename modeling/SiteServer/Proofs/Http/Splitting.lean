import Mathlib.Control.Monad.Basic
import Mathlib.Tactic.ByContra
import SiteServer.Proofs.Http.Cursors

/-!
# Requests that arrive in pieces

A request may be cut anywhere on its way: inside a line ending, inside the body, into
pieces without an octet.  Here it is shown that this makes no difference.

`Parser.feed` takes pieces one by one and calls the parser after each, until there is
something to say.  `Parser.whole` takes everything at once and calls it once.

## How the proof goes

Octets that come later stand behind those that are there.  So the question is what a call
on a buffer has to do with the call on the same buffer with more octets behind
(`ReceiveBuffer.append`).

* An answer that was found is found again: `parse_append_of_answer`.
* Where more octets were needed, the parser goes on from where it stopped as if it had seen
  them from the beginning: `parse_append_of_incomplete`.

Both come from the same two facts about one turn, and these from what the scanner does
(`LineEnd.scan_append`).  The carriage return that is held back at the end of the buffer is
the one octet that is looked at twice.
-/

namespace SiteServer
namespace Http

/-! ## The scanner -/

namespace LineEnd

/-- The same end seen from `n` octets earlier. -/
def later (n : Nat) : LineEnd → LineEnd
  | found m => found (n + m)
  | missing m => missing (n + m)
  | broken m => broken (n + m)

@[simp] theorem later_zero (e : LineEnd) : e.later 0 = e := by
  cases e <;> simp [later]

theorem later_succ (n : Nat) (e : LineEnd) : e.later (n + 1) = (e.later n).next := by
  cases e <;> simp only [later, next, LineEnd.found.injEq, LineEnd.missing.injEq,
    LineEnd.broken.injEq] <;> omega

/-- An end that was found stays when octets are added, and where none was found the
scan goes on from where it stopped. -/
theorem scan_append (bytes more : Bytes) :
    scan (bytes ++ more) =
      match scan bytes with
      | found n => found n
      | broken n => broken n
      | missing n => (scan (bytes.drop n ++ more)).later n := by
  induction bytes with
  | nil => simp [scan]
  | cons c rest ih =>
    by_cases hcr : c = Bytes.cr
    · cases rest with
      | nil => simp [scan, hcr]
      | cons e rest =>
        by_cases hlf : e = Bytes.lf <;> simp [scan, hcr, hlf]
    · by_cases hlf : c = Bytes.lf
      · simp only [List.cons_append, scan, if_neg hcr, if_pos hlf]
      · simp only [List.cons_append, scan, if_neg hcr, if_neg hlf, ih]
        cases scan rest with
        | found n => rfl
        | broken n => rfl
        | missing n => simp only [next, List.drop_succ_cons, later_succ]

end LineEnd

namespace ReceiveBuffer

variable {b b' : ReceiveBuffer}

/-- The buffer with more octets behind those it holds. -/
def append (b : ReceiveBuffer) (more : Bytes) : ReceiveBuffer := { b with data := b.data ++ more }

@[simp] theorem append_nil (b : ReceiveBuffer) : b.append [] = b := by simp [append]

theorem append_append (b : ReceiveBuffer) (xs ys : Bytes) :
    (b.append xs).append ys = b.append (xs ++ ys) := by simp [append]

theorem extend_eq_append (b : ReceiveBuffer) (bytes : Bytes) :
    b.extend bytes = b.append (bytes.take b.remaining) := rfl

@[simp] theorem extend_nil (b : ReceiveBuffer) : b.extend [] = b := by
  simp [extend_eq_append]

theorem extend_append (b : ReceiveBuffer) (xs ys : Bytes) :
    b.extend (xs ++ ys) = (b.extend xs).append (ys.take (b.extend xs).remaining) := by
  rw [extend_eq_append, extend_eq_append, append_append, List.take_append]
  have hroom : (b.append (xs.take b.remaining)).remaining = b.remaining - xs.length := by
    simp only [remaining, append, size, List.length_append, List.length_take]
    omega
  rw [hroom]

/-- Octets that were received stay where they are. -/
theorem slice_append (b : ReceiveBuffer) (more : Bytes) (start : Nat) {stop : Nat}
    (h : stop ≤ b.size) :
    (b.append more).slice start stop = b.slice start stop := by
  simp only [slice, append, size] at h ⊢
  by_cases hstart : start ≤ stop
  · rw [List.drop_append_of_le_length (Nat.le_trans hstart h), List.take_append_of_le_length]
    rw [List.length_drop]
    omega
  · have hzero : stop - start = 0 := by omega
    rw [hzero, List.take_zero, List.take_zero]

private theorem drop_append (h : b.checked ≤ b.size) (more : Bytes) :
    (b.append more).data.drop b.checked = b.data.drop b.checked ++ more :=
  List.drop_append_of_le_length h

/-- A line, or a fault in one, is found again when octets are added. -/
theorem nextLine_append_of_found (h : b.checked ≤ b.size) (more : Bytes) {found : LineScan}
    (hline : b.nextLine = (found, b')) (hfound : found ≠ .incomplete) :
    (b.append more).nextLine = (found, b'.append more) := by
  have hscan := LineEnd.scan_append (b.data.drop b.checked) more
  rw [← drop_append h more] at hscan
  unfold nextLine at hline ⊢
  split at hline
  case h_1 n hn =>
    rw [hn] at hscan
    cases hline
    simp only [append] at hscan ⊢
    rw [hscan]
  case h_2 n hn =>
    cases hline
    exact absurd rfl hfound
  case h_3 n hn =>
    rw [hn] at hscan
    cases hline
    simp only [append] at hscan ⊢
    rw [hscan]

/-- A line that was not ended is looked for from where the scanner stands. -/
theorem nextLine_append_of_incomplete (h : b.checked ≤ b.size) (more : Bytes)
    (hline : b.nextLine = (.incomplete, b')) :
    (b.append more).nextLine = (b'.append more).nextLine := by
  have hscan := LineEnd.scan_append (b.data.drop b.checked) more
  rw [← drop_append h more] at hscan
  unfold nextLine at hline
  split at hline
  case h_1 => cases hline
  case h_3 => cases hline
  case h_2 n hn =>
    have hbound := LineEnd.distance_scan_le (b.data.drop b.checked)
    rw [hn, LineEnd.distance, List.length_drop] at hbound
    rw [hn] at hscan
    cases hline
    have hdrop : (b.data ++ more).drop (b.checked + n)
        = (b.data.drop b.checked).drop n ++ more := by
      rw [List.drop_drop, List.drop_append_of_le_length]
      simp only [size] at h
      omega
    simp only [nextLine, append] at hscan ⊢
    rw [hscan, hdrop]
    cases LineEnd.scan ((b.data.drop b.checked).drop n ++ more) with
    | found m => simp [LineEnd.later, Nat.add_assoc]
    | missing m => simp [LineEnd.later, Nat.add_assoc]
    | broken m => simp [LineEnd.later, Nat.add_assoc]

end ReceiveBuffer

namespace Parser

open ReceiveBuffer

variable {d : Dialect} {p p' : Parser} {b b' : ReceiveBuffer} {turn : Turn}

/-! ## One turn -/

/-- A line always says something. -/
theorem lineTurn_ne_incomplete (p : Parser) (d : Dialect) (line : Bytes) (b : ReceiveBuffer) :
    (lineTurn p d line b).1 ≠ .stop (.ok .incomplete) := by
  unfold lineTurn
  split
  · simp
  · split
    · split <;> simp
    · split <;> simp
    · simp

/-- What a turn that needs more octets leaves is as good as what it found. -/
theorem advance_append_of_incomplete (hs : b.Sound) (more : Bytes)
    (h : advance d p b = (.stop (.ok .incomplete), p', b')) :
    p' = p ∧ advance d p (b.append more) = advance d p (b'.append more) := by
  unfold advance at h
  split at h
  case isTrue hbody =>
    unfold bodyTurn at h
    simp only at h
    split at h
    case isTrue =>
      cases h
      exact ⟨rfl, rfl⟩
    case isFalse => cases h
  case isFalse hbody =>
    split at h
    case h_1 b1 hline =>
      cases h
      refine ⟨rfl, ?_⟩
      unfold advance
      rw [if_neg hbody, if_neg hbody, nextLine_append_of_incomplete hs.checked_le more hline]
    case h_2 => cases h
    case h_3 start stop b1 hline =>
      have hne := lineTurn_ne_incomplete p d (b1.beginLine.slice start stop) b1.beginLine
      cases hturn : lineTurn p d (b1.beginLine.slice start stop) b1.beginLine with
      | mk turn q =>
        rw [hturn] at hne
        simp only [hturn] at h
        cases h
        exact absurd rfl hne

/-- A turn that does not need more octets does the same if there are more. -/
theorem advance_append_of_answer (hs : b.Sound) (more : Bytes)
    (h : advance d p b = (turn, p', b')) (hturn : turn ≠ .stop (.ok .incomplete)) :
    advance d p (b.append more) = (turn, p', b'.append more) := by
  unfold advance at h ⊢
  split at h
  case isTrue hbody =>
    rw [if_pos hbody]
    unfold bodyTurn at h ⊢
    simp only at h ⊢
    split at h
    case isTrue =>
      cases h
      exact absurd rfl hturn
    case isFalse hfit =>
      have hstay : ¬(b.append more).size < (b.append more).checked + p.contentLength := by
        simp only [append, size, List.length_append] at hfit ⊢
        omega
      have hslice := slice_append b more b.checked (Nat.le_of_not_lt hfit)
      rw [if_neg hstay]
      cases h
      simp only [append] at hslice ⊢
      rw [hslice]
  case isFalse hbody =>
    rw [if_neg hbody]
    split at h
    case h_1 =>
      cases h
      exact absurd rfl hturn
    case h_2 b1 hline =>
      cases h
      rw [nextLine_append_of_found hs.checked_le more hline (by simp)]
    case h_3 start stop b1 hline =>
      obtain ⟨-, -, hchecked, hfit, hb1⟩ := scan_complete hline
      rw [nextLine_append_of_found hs.checked_le more hline (by simp)]
      have hstop : stop ≤ b1.beginLine.size := by
        have hsize : b1.beginLine.size = b.size := by
          rw [hb1]
          rfl
        omega
      have hslice := slice_append b1.beginLine more start hstop
      -- the turn looks at the line and at the room behind it, and both are the same
      have hline' : lineTurn p d ((b1.append more).beginLine.slice start stop)
          (b1.append more).beginLine
          = lineTurn p d (b1.beginLine.slice start stop) b1.beginLine := by
        rw [← hslice]
        rfl
      simp only at h ⊢
      rw [hline']
      cases h
      rfl

/-! ## One call -/

/-- An answer stays what it is, whatever octets are added. -/
theorem parse_append_of_answer (hs : b.Sound) (more : Bytes)
    (h : (parse d p b).1 ≠ .ok .incomplete) :
    parse d p (b.append more)
      = ((parse d p b).1, (parse d p b).2.1, (parse d p b).2.2.append more) := by
  fun_induction parse d p b with
  | case1 p b answer p' b' hturn =>
    exact parse_of_stop (advance_append_of_answer hs more hturn (by
      intro heq
      cases heq
      exact h rfl))
  | case2 p b p' b' hturn ih =>
    rw [parse_of_again (advance_append_of_answer hs more hturn (by simp))]
    exact ih (advance_onward hs hturn).2 h

/-- Without an answer, the parser goes on from where it stopped as it would have gone on
from the beginning. -/
theorem parse_append_of_incomplete (hs : b.Sound) (more : Bytes)
    (h : (parse d p b).1 = .ok .incomplete) :
    parse d p (b.append more) = parse d (parse d p b).2.1 ((parse d p b).2.2.append more) := by
  fun_induction parse d p b with
  | case1 p b answer p' b' hturn =>
    rw [show answer = .ok .incomplete from h] at hturn
    obtain ⟨rfl, hsame⟩ := advance_append_of_incomplete hs more hturn
    rw [parse, hsame, ← parse]
  | case2 p b p' b' hturn ih =>
    rw [parse_of_again (advance_append_of_answer hs more hturn (by simp))]
    exact ih (advance_onward hs hturn).2 h

/-- Calling the parser again without anything new changes nothing. -/
theorem parse_of_incomplete (hs : b.Sound) (h : parse d p b = (.ok .incomplete, p', b')) :
    parse d p' b' = (.ok .incomplete, p', b') := by
  have hagain := parse_append_of_incomplete (d := d) (p := p) hs [] (by rw [h])
  rw [append_nil, h] at hagain
  simpa using hagain.symm

/-! ## Pieces -/

/-- Takes pieces one by one and calls the parser after each, until there is something
to say. -/
def feed (d : Dialect) (p : Parser) (b : ReceiveBuffer) :
    List Bytes → Except Refusal Progress × Parser × ReceiveBuffer
  | [] => (.ok .incomplete, p, b)
  | chunk :: chunks =>
    match parse d p (b.extend chunk) with
    | (.ok .incomplete, p, b) => feed d p b chunks
    | answer => answer

/-- Takes everything at once and calls a fresh parser once. -/
def whole (d : Dialect) (capacity : Nat) (bytes : Bytes) :
    Except Refusal Progress × Parser × ReceiveBuffer :=
  parse d fresh ((ofCapacity capacity).extend bytes)

/-- What a call has come to: the answer, everything the parser has learned, and where the
cursors are. -/
structure Standing where
  answer : Except Refusal Progress
  parser : Parser
  checked : Nat
  lineBegin : Nat
  deriving DecidableEq

/-- What a call has come to, apart from the octets in the buffer. -/
def standing (r : Except Refusal Progress × Parser × ReceiveBuffer) : Standing :=
  ⟨r.1, r.2.1, r.2.2.checked, r.2.2.lineBegin⟩

/-- Once a call has found that it needs more octets, it makes no difference whether they
come in pieces or at once. -/
theorem standing_feed (chunks : List Bytes) (hs : b.Sound)
    (h : parse d p b = (.ok .incomplete, p, b)) :
    standing (feed d p b chunks) = standing (parse d p (b.extend chunks.flatten)) := by
  induction chunks generalizing p b with
  | nil =>
    rw [List.flatten_nil, extend_nil, h]
    rfl
  | cons chunk chunks ih =>
    have hs' := hs.extend chunk
    have hall := extend_append b chunk chunks.flatten
    rw [List.flatten_cons, hall]
    unfold feed
    split
    case h_1 q c hfirst =>
      -- the parser stopped in the middle: the rest is read from there
      obtain ⟨hon, hc⟩ := parse_onward (d := d) (p := p) hs'
      rw [parse_append_of_incomplete hs' _ (by rw [hfirst])]
      rw [hfirst] at hon hc ⊢
      have hroom : (b.extend chunk).remaining = c.remaining := by
        rw [remaining, remaining, hon.capacity_eq, hon.size_eq]
      rw [ih hc (parse_of_incomplete hs' hfirst), extend_eq_append, hroom]
    case h_2 hfirst =>
      have hanswer : (parse d p (b.extend chunk)).1 ≠ .ok .incomplete := by
        intro heq
        exact hfirst _ _ (Prod.ext heq rfl)
      rw [parse_append_of_answer hs' _ hanswer]
      rfl

theorem parse_fresh (d : Dialect) (capacity : Nat) :
    parse d fresh (ofCapacity capacity) = (.ok .incomplete, fresh, ofCapacity capacity) :=
  parse_of_stop rfl

/-- Octets behind an answer make no difference. -/
theorem standing_whole_append {capacity : Nat} {bytes : Bytes} (more : Bytes)
    (h : (whole d capacity bytes).1 ≠ .ok .incomplete) :
    standing (whole d capacity (bytes ++ more)) = standing (whole d capacity bytes) := by
  have hs := (sound_ofCapacity capacity).extend bytes
  unfold whole at h ⊢
  rw [extend_append, parse_append_of_answer hs _ h]
  rfl

/-- No call looks past what it was given. -/
theorem checked_whole_le (d : Dialect) (capacity : Nat) (bytes : Bytes) :
    (whole d capacity bytes).2.2.checked ≤ bytes.length := by
  have hs := (sound_ofCapacity capacity).extend bytes
  obtain ⟨hon, hsound⟩ := parse_onward (d := d) (p := fresh) hs
  have hfit := hsound.checked_le
  rw [hon.size_eq, size_extend, taken] at hfit
  have hempty : (ofCapacity capacity).size = 0 := rfl
  unfold whole
  omega

/-- **However a request is cut into pieces, it is read as if it had come at once.**  The
answer, everything the parser has learned and both cursors are the same.  Octets behind
an answer change nothing, and as long as a request that was completed is not there as far
as it was read, more octets are needed. -/
theorem feed_eq_whole (d : Dialect) (capacity : Nat) :
    (∀ chunks : List Bytes,
      standing (feed d fresh (ofCapacity capacity) chunks)
        = standing (whole d capacity chunks.flatten)) ∧
    (∀ bytes more : Bytes, (whole d capacity bytes).1 ≠ .ok .incomplete →
      standing (whole d capacity (bytes ++ more)) = standing (whole d capacity bytes)) ∧
    (∀ (bytes : Bytes) (request : Request),
      (whole d capacity bytes).1 = .ok (.complete request) →
      ∀ front : Bytes, front <+: bytes →
        front.length < (whole d capacity bytes).2.2.checked →
        (whole d capacity front).1 = .ok .incomplete) := by
  refine ⟨fun chunks => ?_, fun bytes more => standing_whole_append more, ?_⟩
  · exact standing_feed chunks (sound_ofCapacity capacity) (parse_fresh d capacity)
  · rintro bytes request - front ⟨rest, rfl⟩ hshort
    by_contra hanswer
    have hsame := standing_whole_append rest hanswer
    have hchecked : (whole d capacity (front ++ rest)).2.2.checked
        = (whole d capacity front).2.2.checked := congrArg Standing.checked hsame
    have hfit := checked_whole_le d capacity front
    omega

/-- A request in two lines, with an octet more and with an octet less. -/
theorem feed_eq_whole_of_bare_request :
    let d : Dialect := ⟨"a", fun _ => none⟩
    let bytes := Utf8.encode "GET / HTTP/1.1\r\n\r\n"
    (whole d 64 bytes).1 = .ok (.complete ⟨.get, "/a", "HTTP/1.1", none, 0, false, []⟩) ∧
      standing (whole d 64 (bytes ++ [0])) = standing (whole d 64 bytes) ∧
      (whole d 64 (bytes.take 17)).1 = .ok .incomplete := by
  intro d bytes
  have hwhole : (whole d 64 bytes).1
      = .ok (.complete ⟨.get, "/a", "HTTP/1.1", none, 0, false, []⟩) := by decide +kernel
  have hlength : (bytes.take 17).length < (whole d 64 bytes).2.2.checked := by decide +kernel
  obtain ⟨-, hmore, hless⟩ := feed_eq_whole d 64
  exact ⟨hwhole, hmore bytes [0] (by rw [hwhole]; simp),
    hless bytes _ hwhole _ (List.take_prefix 17 bytes) hlength⟩

end Parser
end Http
end SiteServer
