import SiteServer.Http.Bounds
import SiteServer.Proofs.Http.Room

/-!
# Nothing goes out of bounds

Whatever is done to a parser and its buffer, the cursors stay in order, and the body for which the
parser waits is one that the buffer could hold.  So no sum and no difference leaves a machine word,
no octet is looked at that is not there, and a call takes a turn for every two octets not yet looked
at, and one more, at most.

* `Reception.Bounded`, `Reception.bounded_useAll`: what holds after any use.
* `ReceiveBuffer.nextLine?_eq`, `ReceiveBuffer.fill?_eq`, `Parser.parse?_eq`: within bounds the
  operations do what they do without.
-/

namespace SiteServer

namespace Word

theorem add?_of_lt {a b : Nat} (h : a + b < count) : add? a b = some (a + b) := if_pos h

theorem sub?_of_le {a b : Nat} (h : b ≤ a) : sub? a b = some (a - b) := if_pos h

end Word

theorem Bytes.slice?_of_le {octets : Bytes} {start stop : Nat} (hstart : start ≤ stop)
    (hstop : stop ≤ octets.length) :
    octets.slice? start stop = some ((octets.drop start).take (stop - start)) :=
  if_pos ⟨hstart, hstop⟩

namespace Http

namespace LineEnd

variable {c : UInt8} (rest : Bytes)

theorem scan_cr : scan [Bytes.cr] = missing 0 := by
  rw [scan.eq_def]
  exact if_pos rfl

theorem scan_cr_cons (c : UInt8) :
    scan (Bytes.cr :: c :: rest) = if c = Bytes.lf then found 0 else broken 0 := by
  rw [scan.eq_def]
  exact if_pos rfl

theorem scan_lf : scan (Bytes.lf :: rest) = broken 0 := by
  rw [scan.eq_def]
  rfl

theorem scan_cons_of_ne (hcr : c ≠ Bytes.cr) (hlf : c ≠ Bytes.lf) :
    scan (c :: rest) = (scan rest).next := by
  rw [scan.eq_def]
  exact (if_neg hcr).trans (if_neg hlf)

end LineEnd

namespace ReceiveBuffer

variable {b : ReceiveBuffer} {place : Nat}

/-! ## The buffer -/

/-- A buffer that is in order and no larger than half of the words. -/
structure Fits (b : ReceiveBuffer) : Prop where
  sound : b.Sound
  capacity_lt : b.capacity < 0x8000000000000000

theorem Fits.of_onward {b' : ReceiveBuffer} (h : b.Fits) (hon : Onward b b') (hsound : b'.Sound) :
    b'.Fits :=
  ⟨hsound, hon.capacity_eq ▸ h.capacity_lt⟩

theorem Fits.lt_count (h : b.Fits) {n : Nat} (hn : n ≤ b.capacity + b.capacity) :
    n < Word.count := by
  have hcapacity := h.capacity_lt
  rw [Word.count]
  omega

theorem Fits.lt_count_of_le_size (h : b.Fits) {n : Nat} (hn : n ≤ b.size) : n < Word.count :=
  h.lt_count (Nat.le_trans (Nat.le_trans hn h.sound.size_le) (Nat.le_add_right _ _))

theorem lookTo?_of_le (h : place ≤ b.size) : b.lookTo? place = some { b with checked := place } :=
  if_pos h

theorem remaining?_eq (h : b.Fits) : b.remaining? = some b.remaining :=
  Word.sub?_of_le h.sound.size_le

theorem extend?_eq (h : b.Fits) (bytes : Bytes) : b.extend? bytes = some (b.extend bytes) := by
  have hpart : bytes.slice? 0 (min bytes.length b.remaining) = some (bytes.take b.remaining) := by
    rw [Bytes.slice?_of_le (Nat.zero_le _) (Nat.min_le_left _ _), List.drop_zero, Nat.sub_zero,
      Nat.min_comm, ← List.take_eq_take_min]
  simp only [extend?, remaining?_eq h, hpart, Option.bind_eq_bind, Option.bind_some]
  rfl

theorem window_eq (b : ReceiveBuffer) :
    b.padded.slice? b.size b.padded.length = some (List.replicate b.remaining 0) := by
  have hlength : b.padded.length = b.size + b.remaining := by
    simp [padded, size]
  rw [Bytes.slice?_of_le (by omega) (Nat.le_refl _), hlength, Nat.add_sub_cancel_left, padded,
    size, List.drop_left, List.take_of_length_le (by simp)]

theorem fill?_eq (h : b.Fits) (s : Stream) : b.fill? s = some (b.fill s) := by
  simp only [fill?, remaining?_eq h, Option.bind_eq_bind, Option.bind_some]
  unfold fill isFull
  by_cases hfull : b.remaining = 0
  · simp [hfull]
  · simp only [hfull, if_false, window_eq, Option.bind_some, List.length_replicate]
    rcases hread : s.read b.remaining with ⟨_ | bytes, s'⟩
    · rfl
    · have hstop : b.size + bytes.length < Word.count := by
        have hroom : bytes.length ≤ b.capacity - b.size := Stream.length_le_of_read hread
        have hsize := h.sound.size_le
        exact h.lt_count (by omega)
      simp only [Word.add?_of_lt hstop, Option.bind_some]
      cases bytes <;> rfl

/-- What the scanner says, seen from a place up to which the line has not ended. -/
def verdict (b : ReceiveBuffer) (place : Nat) : LineEnd → LineScan × ReceiveBuffer
  | .found n => (.complete b.lineBegin (place + n), { b with checked := place + n + 2 })
  | .missing n => (.incomplete, { b with checked := place + n })
  | .broken n => (.malformed, { b with checked := place + n })

theorem nextLine_eq_verdict (b : ReceiveBuffer) :
    b.nextLine = b.verdict b.checked (LineEnd.scan (b.data.drop b.checked)) := by
  unfold nextLine
  cases LineEnd.scan (b.data.drop b.checked) <;> rfl

theorem verdict_next (b : ReceiveBuffer) (place : Nat) (e : LineEnd) :
    b.verdict place e.next = b.verdict (place + 1) e := by
  cases e <;> simp only [LineEnd.next, verdict, Nat.add_assoc, Nat.add_comm 1]

/-- From any place on, the scanner finds the end of the line. -/
theorem scanFrom?_eq (h : b.Fits) (hplace : place ≤ b.size) :
    b.scanFrom? place = some (b.verdict place (LineEnd.scan (b.data.drop place))) := by
  rcases hrest : b.data.drop place with rest
  induction rest generalizing place with
  | nil =>
    have hend : ¬place < b.size := Nat.not_lt.mpr (List.drop_eq_nil_iff.mp hrest)
    rw [scanFrom?, if_neg hend, lookTo?_of_le hplace]
    rfl
  | cons c rest ih =>
    have hlength : b.size = place + (rest.length + 1) := by
      have := congrArg List.length hrest
      rw [List.length_drop, List.length_cons] at this
      simp only [size] at hplace ⊢
      omega
    have hc : b.data[place]? = some c := by
      rw [← List.head?_drop, hrest, List.head?_cons]
    have hbehind : b.data.drop (place + 1) = rest := by
      rw [← List.tail_drop, hrest, List.tail_cons]
    have hnext : Word.add? place 1 = some (place + 1) :=
      Word.add?_of_lt (h.lt_count_of_le_size (by omega))
    rw [scanFrom?, if_pos (by omega), hc]
    simp only [Option.bind_eq_bind, Option.bind_some, hnext, lookTo?_of_le hplace]
    by_cases hcr : c = Bytes.cr
    · subst hcr
      rw [if_pos rfl]
      cases rest with
      | nil =>
        have hlast : place + 1 = b.size := hlength.symm
        rw [if_pos hlast, LineEnd.scan_cr]
        rfl
      | cons d rest =>
        have hd : b.data[place + 1]? = some d := by
          rw [← List.head?_drop, hbehind, List.head?_cons]
        have hwithin : place + 2 ≤ b.size := by
          rw [hlength, List.length_cons]
          omega
        have hpast : Word.add? place 2 = some (place + 2) :=
          Word.add?_of_lt (h.lt_count_of_le_size hwithin)
        rw [if_neg (by omega), hd, Option.bind_some, hpast, Option.bind_some,
          lookTo?_of_le hwithin, LineEnd.scan_cr_cons]
        split <;> rfl
    · rw [if_neg hcr]
      by_cases hlf : c = Bytes.lf
      · subst hlf
        rw [if_pos rfl, LineEnd.scan_lf]
        rfl
      · rw [if_neg hlf, ih (by omega) hbehind, LineEnd.scan_cons_of_ne rest hcr hlf, verdict_next]

/-- Within bounds the scanner does what it does without. -/
theorem nextLine?_eq (h : b.Fits) : b.nextLine? = some b.nextLine := by
  rw [nextLine?, scanFrom?_eq h h.sound.checked_le, nextLine_eq_verdict]

/-- A line that was found lies within the octets, and there is no less room than was looked at. -/
theorem within_of_complete {b' : ReceiveBuffer} {start stop : Nat} (hs : b.Sound)
    (h : b.nextLine = (.complete start stop, b')) :
    start ≤ stop ∧ stop ≤ b'.data.length ∧ b'.checked ≤ b'.capacity := by
  have hsound : b'.Sound := by
    have hsound := hs.nextLine
    rwa [h] at hsound
  obtain ⟨rfl, hstop, hpast, -, -⟩ := scan_complete h
  have hlooked : b'.checked ≤ b'.data.length := hsound.checked_le
  exact ⟨Nat.le_trans hs.lineBegin_le hstop, by omega,
    Nat.le_trans hsound.checked_le hsound.size_le⟩

end ReceiveBuffer

/-! ## The parser -/

namespace Parser

open ReceiveBuffer

variable {d : Dialect} {p p' : Parser} {b b' : ReceiveBuffer} {turn : Turn}

/-- If the parser waits for a body, it is one that the buffer could hold. -/
def Awaitable (p : Parser) (b : ReceiveBuffer) : Prop :=
  p.state = .body → 0 < p.contentLength ∧ p.contentLength ≤ b.capacity

theorem awaitable_of_state_ne (h : p.state ≠ .body) : p.Awaitable b := fun hbody => absurd hbody h

theorem awaitable_fresh : fresh.Awaitable b :=
  awaitable_of_state_ne (by decide)

theorem Awaitable.of_capacity_eq (h : p.Awaitable b) (hsame : b'.capacity = b.capacity) :
    p.Awaitable b' := fun hbody => hsame ▸ h hbody

/-- A turn does not make the parser wait for any other. -/
theorem Awaitable.advance (h : p.Awaitable b) (hturn : advance d p b = (turn, p', b')) :
    p'.Awaitable b' := by
  unfold Parser.advance at hturn
  split at hturn
  case isTrue hbody =>
    unfold bodyTurn at hturn
    dsimp only at hturn
    split at hturn <;> cases hturn <;> exact h
  case isFalse hp =>
    split at hturn
    case h_1 =>
      cases hturn
      exact awaitable_of_state_ne hp
    case h_2 =>
      cases hturn
      exact awaitable_of_state_ne hp
    case h_3 start stop b₁ hline =>
      cases hturn
      intro hbody
      obtain ⟨-, hpos, hroom⟩ := body_of_lineTurn hp rfl hbody
      exact ⟨Nat.pos_of_ne_zero hpos, by omega⟩

theorem Awaitable.parse (h : p.Awaitable b) : (parse d p b).2.1.Awaitable (parse d p b).2.2 := by
  fun_induction Parser.parse d p b with
  | case1 p b answer p' b' hturn => exact h.advance hturn
  | case2 p b p' b' hturn ih => exact ih (h.advance hturn)

theorem bodyTurn?_eq (hb : b.Fits) (hlength : p.contentLength ≤ b.capacity) :
    bodyTurn? p b = some (bodyTurn p b) := by
  have hstop : b.checked + p.contentLength < Word.count := by
    have hchecked := Nat.le_trans hb.sound.checked_le hb.sound.size_le
    exact hb.lt_count (Nat.add_le_add hchecked hlength)
  simp only [bodyTurn?, Word.add?_of_lt hstop, Option.bind_eq_bind, Option.bind_some]
  unfold bodyTurn
  by_cases hshort : b.size < b.checked + p.contentLength
  · simp only [if_pos hshort]
    rfl
  · have hwithin : b.checked + p.contentLength ≤ b.size := Nat.le_of_not_lt hshort
    simp only [if_neg hshort, lookTo?_of_le hwithin,
      Bytes.slice?_of_le (Nat.le_add_right _ _) hwithin, Option.bind_some]
    rfl

theorem advance?_eq (hb : b.Fits) (h : p.Awaitable b) :
    advance? d p b = some (advance d p b) := by
  unfold advance? advance
  by_cases hbody : p.state = .body
  · rw [if_pos hbody, if_pos hbody]
    exact bodyTurn?_eq hb (h hbody).2
  · rw [if_neg hbody, if_neg hbody, nextLine?_eq hb]
    rcases hline : b.nextLine with ⟨_ | _ | _, b₁⟩
    case complete start stop =>
      obtain ⟨hstart, hstop, hlooked⟩ := within_of_complete hb.sound hline
      have hroom : Word.sub? b₁.beginLine.capacity b₁.beginLine.checked
          = some (b₁.beginLine.capacity - b₁.beginLine.checked) := Word.sub?_of_le hlooked
      have hslice : Bytes.slice? b₁.beginLine.data start stop
          = some (b₁.beginLine.slice start stop) := Bytes.slice?_of_le hstart hstop
      simp only [Option.bind_eq_bind, Option.bind_some, hroom, hslice]
      rfl
    case incomplete => rfl
    case malformed => rfl

/-- A call takes a turn for every two octets not yet looked at, and one more, at most. -/
theorem parse?_eq {turns : Nat} (hb : b.Fits) (h : p.Awaitable b)
    (hturns : (b.size - b.checked) / 2 + 1 ≤ turns) : parse? d turns p b = some (parse d p b) := by
  induction turns generalizing p b with
  | zero => cases hturns
  | succ turns ih =>
    rw [parse?, advance?_eq hb h, Option.bind_eq_bind, Option.bind_some]
    rcases hturn : advance d p b with ⟨_ | _, p', b'⟩
    case stop answer => rw [parse_of_stop hturn]; rfl
    case again =>
      obtain ⟨hmoved, hlooked, hdata⟩ := advance_again hturn
      obtain ⟨hon, hsound⟩ := advance_onward hb.sound hturn
      rw [parse_of_again hturn]
      refine ih (hb.of_onward hon hsound) (h.advance hturn) ?_
      rw [hon.size_eq]
      omega

end Parser

/-! ## Receptions -/

namespace Reception

open ReceiveBuffer

variable {d : Dialect} {r : Reception} {capacity : Nat}

/-- The cursors are in order, and the parser waits for no body that the buffer could not hold. -/
structure Bounded (capacity : Nat) (r : Reception) : Prop where
  sound : r.buffer.Sound
  capacity_eq : r.buffer.capacity = capacity
  awaitable : r.parser.Awaitable r.buffer

theorem bounded_ofCapacity (capacity : Nat) : (ofCapacity capacity).Bounded capacity :=
  ⟨sound_ofCapacity capacity, rfl, Parser.awaitable_fresh⟩

/-- A call leaves behind what the parser leaves behind. -/
theorem step_parse_eq (d : Dialect) (r : Reception) :
    (r.step d .parse).parser = (r.parser.parse d r.buffer).2.1 ∧
      (r.step d .parse).buffer = (r.parser.parse d r.buffer).2.2 := by
  rcases hparse : r.parser.parse d r.buffer with ⟨⟨⟩ | ⟨⟨⟩⟩, p, b⟩ <;>
    simp only [Reception.step, hparse, and_self]

theorem Bounded.step (h : r.Bounded capacity) (a : Act) : (r.step d a).Bounded capacity := by
  cases a with
  | extend bytes => exact ⟨h.sound.extend bytes, h.capacity_eq, h.awaitable⟩
  | fill s =>
    obtain ⟨taken, hstep, hfits⟩ := step_fill_eq d r s
    rw [hstep]
    exact ⟨h.sound.append hfits, h.capacity_eq, h.awaitable⟩
  | parse =>
    obtain ⟨hon, hsound⟩ := Parser.parse_onward (d := d) (p := r.parser) h.sound
    obtain ⟨hparser, hbuffer⟩ := step_parse_eq d r
    refine ⟨hbuffer ▸ hsound, hbuffer ▸ hon.capacity_eq.trans h.capacity_eq, ?_⟩
    rw [hparser, hbuffer]
    exact h.awaitable.parse
  | clear => exact ⟨sound_ofCapacity _, h.capacity_eq, h.awaitable⟩
  | renew => exact ⟨h.sound, h.capacity_eq, Parser.awaitable_fresh⟩

/-- Any use leaves the cursors in order. -/
theorem Bounded.use (h : r.Bounded capacity) (u : Use) : (r.use d u).Bounded capacity := by
  cases u with
  | act a => exact h.step a
  | scan =>
    have hsame := (nextLine_onward r.buffer).capacity_eq
    exact ⟨h.sound.nextLine, hsame.trans h.capacity_eq, h.awaitable.of_capacity_eq hsame⟩

/-- The scanner goes back only when the buffer is emptied. -/
theorem checked_le_use (hsound : r.buffer.Sound) {u : Use} (hu : u ≠ .act .clear) :
    r.buffer.checked ≤ (r.use d u).buffer.checked := by
  cases u with
  | act a =>
    cases a with
    | extend bytes => exact Nat.le_refl _
    | fill s =>
      obtain ⟨taken, hstep, -⟩ := step_fill_eq d r s
      rw [use, hstep]
      exact Nat.le_refl _
    | parse =>
      rw [use, (step_parse_eq d r).2]
      exact (Parser.parse_onward hsound).1.checked_le
    | clear => exact absurd rfl hu
    | renew => exact Nat.le_refl _
  | scan => exact (nextLine_onward r.buffer).checked_le

theorem bounded_useAll (capacity : Nat) (d : Dialect) (uses : List Use) :
    ((ofCapacity capacity).useAll d uses).Bounded capacity := by
  have hrun : ∀ r : Reception, r.Bounded capacity → (r.useAll d uses).Bounded capacity := by
    induction uses with
    | nil => exact fun _ h => h
    | cons u uses ih => exact fun r h => ih _ (h.use u)
  exact hrun _ (bounded_ofCapacity capacity)

/-- **Nothing goes out of bounds.**  A parser and its buffer, whose capacity is less than half of
the words, may be used in any order: after a refusal, after a request has been handed out, with the
parser not made fresh, with the buffer emptied or not.  The cursors are in order, the scanner goes
back only when the buffer is emptied, the parser waits only for a body that the buffer could hold,
and whatever is done next stays within its words and its octets.  A call takes a turn for every two
octets not yet looked at, and one more, at most. -/
theorem within_bounds_of_uses (d : Dialect) (capacity : Nat)
    (h : capacity < 0x8000000000000000) (uses : List Use) :
    let r := (ofCapacity capacity).useAll d uses
    (r.buffer.lineBegin ≤ r.buffer.checked ∧ r.buffer.checked ≤ r.buffer.size ∧
        r.buffer.size ≤ r.buffer.capacity ∧ r.buffer.capacity = capacity) ∧
      (∀ u, u ≠ .act .clear → r.buffer.checked ≤ (r.use d u).buffer.checked) ∧
      (r.parser.state = .body → 0 < r.parser.contentLength ∧ r.parser.contentLength ≤ capacity) ∧
      (∀ bytes, r.buffer.extend? bytes = some (r.buffer.extend bytes)) ∧
      (∀ s, r.buffer.fill? s = some (r.buffer.fill s)) ∧
      r.buffer.nextLine? = some r.buffer.nextLine ∧
      Parser.parse? d ((r.buffer.size - r.buffer.checked) / 2 + 1) r.parser r.buffer
        = some (r.parser.parse d r.buffer) := by
  intro r
  have hbounded : r.Bounded capacity := bounded_useAll capacity d uses
  have hfits : r.buffer.Fits := ⟨hbounded.sound, hbounded.capacity_eq.symm ▸ h⟩
  have hcursors := hbounded.sound
  refine ⟨⟨hcursors.lineBegin_le, hcursors.checked_le, hcursors.size_le, hbounded.capacity_eq⟩,
    fun u => checked_le_use hcursors, fun hbody => hbounded.capacity_eq ▸ hbounded.awaitable hbody,
    extend?_eq hfits, fill?_eq hfits, nextLine?_eq hfits, ?_⟩
  exact Parser.parse?_eq hfits hbounded.awaitable (Nat.le_refl _)

/-- A parser that has handed out a body of two octets goes on waiting for two more.  The scanner
passes over them as a line, and the buffer is emptied while the parser still waits.  Of the three
octets that come then it takes the first two for a body. -/
theorem within_bounds_of_uses_of_second_body :
    let d : Dialect := ⟨"a", fun _ => none⟩
    let head := "POST /x HTTP/1.1\r\nContent-Length: 2\r\n\r\n".toUTF8.toList
    let uses : List Use := [.act (.extend (head ++ [97, 98])), .act .parse,
      .act (.extend [13, 10]), .scan, .act .clear, .act (.extend [99, 13, 10])]
    let r := (ofCapacity 64).useAll d uses
    64 < 0x8000000000000000 ∧ r.parser.state = .body ∧ r.parser.contentLength = 2 ∧
      r.buffer = ⟨[99, 13, 10], 64, 0, 0⟩ ∧ r.buffer.nextLine? = some r.buffer.nextLine ∧
      Parser.parse? d ((r.buffer.size - r.buffer.checked) / 2 + 1) r.parser r.buffer
        = some (r.parser.parse d r.buffer) := by
  intro d head uses r
  have hcapacity : 64 < 0x8000000000000000 := by decide
  obtain ⟨-, -, -, -, -, hscan, hparse⟩ := within_bounds_of_uses d 64 hcapacity uses
  exact ⟨hcapacity, by decide +kernel, by decide +kernel, by decide +kernel, hscan, hparse⟩

end Reception
end Http
end SiteServer
