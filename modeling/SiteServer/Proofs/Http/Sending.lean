import Mathlib.Control.Monad.Basic
import SiteServer.Http.Writer

/-!
# Responses that are sent in parts

A stream may take as much or as little of what it is offered as it likes: the end of
the head together with the beginning of the file, a single octet, or nothing for now.
The writer has a cursor in each of the two segments and two counters over both, and has
to go on at the next call as if nothing had happened.

## The invariant

All four numbers are determined by one of them, how much was sent, and by the response:

* the cursor in the head stands where that much reaches, but not behind its end;
* the cursor in the file stands where the part beyond the head reaches;
* what is left to send is the rest of the whole.

This is `Writer.Sends`, which also says that what was accepted is as much of the response
from its beginning.  Each write keeps it (`Sends.advance`), hence each call does, whatever
the stream does (`Sends.sendLoop_cases`), and hence do all calls together with streams that
go along (`Sends.flushAll`).
-/

namespace SiteServer

/-! ## Streams that go along -/

/-- Whether the other side goes along with a write: it takes something, or asks for
patience. -/
def Acceptance.isWilling : Acceptance → Bool
  | .upTo count => 0 < count
  | .fault .wouldBlock | .fault .interrupted => true
  | .fault (.failed _) => false

namespace Stream

variable {s s' : Stream} {offer : Bytes} {result : Except StreamFault Nat}

/-- A write hands over the beginning of what it offers, or nothing. -/
theorem write_cases (h : s.write offer = (result, s')) :
    s'.accepting = s.accepting.tail ∧
      ((∃ n, result = .ok n ∧ n ≤ offer.length ∧ s'.written = s.written ++ offer.take n) ∨
        ∃ f, result = .error f ∧ s'.written = s.written) := by
  unfold write at h
  split at h
  case h_1 haccepting =>
    cases h
    rw [haccepting]
    exact ⟨rfl, Or.inl ⟨_, rfl, Nat.le_refl _, by rw [List.take_length]⟩⟩
  case h_2 f rest haccepting =>
    cases h
    rw [haccepting]
    exact ⟨rfl, Or.inr ⟨f, rfl, rfl⟩⟩
  case h_3 count rest haccepting =>
    cases h
    rw [haccepting]
    refine ⟨rfl, Or.inl ⟨_, rfl, Nat.min_le_right _ _, ?_⟩⟩
    rcases Nat.le_total count offer.length with hle | hle
    · rw [Nat.min_eq_left hle]
    · rw [Nat.min_eq_right hle, List.take_length, List.take_of_length_le hle]

/-- A stream that goes along takes something of what it is offered, or asks for patience. -/
theorem write_of_willing (hs : s.accepting.all Acceptance.isWilling) (hoffer : offer ≠ [])
    (h : s.write offer = (result, s')) :
    result ≠ .ok 0 ∧ ∀ reason, result ≠ .error (.failed reason) := by
  have hlength : 0 < offer.length := List.length_pos_iff.mpr hoffer
  unfold write at h
  split at h
  case h_1 =>
    cases h
    simp only [ne_eq, Except.ok.injEq, reduceCtorEq, not_false_eq_true, implies_true, and_true]
    omega
  case h_2 f rest haccepting =>
    cases h
    rw [haccepting, List.all_cons, Bool.and_eq_true] at hs
    cases f with
    | failed reason => exact absurd hs.1 (by simp [Acceptance.isWilling])
    | _ => simp
  case h_3 count rest haccepting =>
    cases h
    rw [haccepting, List.all_cons, Bool.and_eq_true] at hs
    have hcount : 0 < count := by simpa [Acceptance.isWilling] using hs.1
    simp only [ne_eq, Except.ok.injEq, reduceCtorEq, not_false_eq_true, implies_true, and_true]
    omega

end Stream

namespace Http

/-- How many octets a flush says it has written. -/
def FlushOutcome.count : FlushOutcome → Nat
  | .done written | .blocked written => written
  | _ => 0

namespace Writer

variable {w w' : Writer} {r : Response} {out : Bytes}

/-! ## The invariant -/

/-- The writer sends a response, and `out` has been accepted of it. -/
structure Sends (r : Response) (w : Writer) (out : Bytes) : Prop where
  head_eq : w.head = r.head
  headSent_eq : w.headSent = min w.sent r.head.length
  fileSent_eq : w.fileSent = w.sent - r.head.length
  total_eq : w.sent + w.toSend = r.encode.length
  out_eq : out = r.encode.take w.sent
  /-- The file is held as long as there is something left of it. -/
  file_eq : w.toSend ≠ 0 → w.file = r.attachment?

/-- A response that was put on its way is sent from the beginning. -/
theorem sends_of_compose (h : w.compose r = (.ok (), w')) : Sends r w' [] := by
  unfold compose at h
  split at h
  case isTrue => cases h
  case isFalse =>
    obtain ⟨-, rfl⟩ := Prod.mk.inj h
    refine ⟨rfl, (Nat.zero_min _).symm, (Nat.zero_sub _).symm, ?_, List.take_zero.symm,
      fun _ => rfl⟩
    rw [Response.encode, List.length_append]
    exact Nat.zero_add _

/-- What is offered is the rest of the response. -/
theorem Sends.offer? (h : Sends r w out) (hleft : w.toSend ≠ 0) :
    w.offer? = some (r.encode.drop w.sent) := by
  have htotal := h.total_eq
  simp only [Response.encode, List.length_append] at htotal
  have hhead : left? w.head w.headSent = some (r.head.drop w.sent) := by
    rw [left?, h.head_eq, h.headSent_eq, if_pos (Nat.min_le_right _ _)]
    by_cases hle : w.sent ≤ r.head.length
    · rw [Nat.min_eq_left hle]
    · rw [Nat.min_eq_right (by omega), List.drop_length, List.drop_of_length_le (by omega)]
  have hfile : left? (w.file.getD []) w.fileSent
      = some ((r.attachment?.getD []).drop (w.sent - r.head.length)) := by
    rw [left?, h.file_eq hleft, h.fileSent_eq, if_pos (by omega)]
  unfold Writer.offer?
  rw [hhead, hfile, Response.encode, List.drop_append]

/-- Accepting some of the rest leaves the numbers consistent, whether or not it ends the
head and begins the file. -/
theorem Sends.advance (h : Sends r w out) {n : Nat} (hn : n ≤ w.toSend) :
    Sends r (w.advance n) (out ++ (r.encode.drop w.sent).take n) := by
  have htotal := h.total_eq
  have hhead := h.headSent_eq
  have hfile := h.fileSent_eq
  refine ⟨h.head_eq, ?_, ?_, ?_, ?_, ?_⟩
  · simp only [Writer.advance, h.head_eq]
    omega
  · simp only [Writer.advance, h.head_eq]
    omega
  · simp only [Writer.advance]
    omega
  · simp only [Writer.advance]
    rw [h.out_eq, List.take_add]
  · intro hleft
    exact h.file_eq (by simp only [Writer.advance] at hleft; omega)

theorem Sends.release (h : Sends r w out) (hdone : w.toSend = 0) : Sends r w.release out :=
  ⟨h.head_eq, h.headSent_eq, h.fileSent_eq, h.total_eq, h.out_eq, fun hleft => absurd hdone hleft⟩

/-- All has been sent exactly if nothing is left. -/
theorem Sends.out_eq_encode_iff (h : Sends r w out) : out = r.encode ↔ w.toSend = 0 := by
  have htotal := h.total_eq
  constructor
  · intro hall
    have hlength := congrArg List.length h.out_eq
    rw [hall, List.length_take] at hlength
    omega
  · intro hdone
    rw [h.out_eq, List.take_of_length_le (by omega)]

/-! ## One call -/

/-- What one call with a stream that goes along comes to: so many octets were written,
those that came next, and the answer tells whether something is left. -/
structure Flushed (r : Response) (w' : Writer) (out taken : Bytes) (written : Nat)
    (answer : FlushOutcome) : Prop where
  sends : Sends r w' (out ++ taken)
  answer_iff : (answer = .done (written + taken.length) ∧ w'.toSend = 0 ∧ w'.file = none) ∨
    (answer = .blocked (written + taken.length) ∧ w'.toSend ≠ 0)

/-- A writer with nothing left to send writes nothing, whatever the stream is like. -/
theorem flush_of_idle (h : w.toSend = 0) (s : Stream) : w.flush s = (.done 0, w.release, s) := by
  rw [flush, sendLoop, dif_pos h]

/-- Of a response on its way the stream takes some of what comes next, or nothing for now,
or it has failed, which a stream that goes along does not. -/
theorem Sends.turn_cases (h : Sends r w out) (hleft : w.toSend ≠ 0) (s : Stream) (written : Nat) :
    (∃ w' s' taken, w.turn s written = .again taken.length w' s' ∧
        s'.accepting = s.accepting.tail ∧ s'.written = s.written ++ taken ∧
        Sends r w' (out ++ taken)) ∨
      (∃ s', w.turn s written = .stop (.blocked written) w s' ∧ s'.written = s.written) ∨
      ∃ answer s', w.turn s written = .stop answer w.release s' ∧
        (answer = .closedWhileWriting ∨ ∃ reason, answer = .failed reason) ∧
        s'.written = s.written ∧ ¬s.accepting.all Acceptance.isWilling := by
  have htotal := h.total_eq
  have hrest : r.encode.drop w.sent ≠ [] := by
    rw [← List.length_pos_iff, List.length_drop]
    omega
  cases hwrite : s.write (r.encode.drop w.sent) with
  | mk result s' =>
    have hfine := fun hs => Stream.write_of_willing hs hrest hwrite
    obtain ⟨haccepting, ⟨n, rfl, hn, hwritten⟩ | ⟨f, rfl, hwritten⟩⟩ := Stream.write_cases hwrite
    · cases n with
      | zero =>
        rw [List.take_zero, List.append_nil] at hwritten
        refine Or.inr (Or.inr ⟨_, s', ?_, Or.inl rfl, hwritten, fun hs => (hfine hs).1 rfl⟩)
        simp only [Writer.turn, h.offer? hleft, hwrite]
      | succ n =>
        have hfit : n + 1 ≤ w.toSend := by
          rw [List.length_drop] at hn
          omega
        refine Or.inl ⟨w.advance (n + 1), s', _, ?_, haccepting, hwritten, h.advance hfit⟩
        simp only [Writer.turn, h.offer? hleft, hwrite, List.length_take_of_le hn]
    · cases f with
      | wouldBlock =>
        refine Or.inr (Or.inl ⟨s', ?_, hwritten⟩)
        simp only [Writer.turn, h.offer? hleft, hwrite]
      | interrupted =>
        refine Or.inl ⟨w, s', [], ?_, haccepting, by rw [hwritten, List.append_nil],
          by rwa [List.append_nil]⟩
        simp only [Writer.turn, h.offer? hleft, hwrite, List.length_nil]
      | failed reason =>
        refine Or.inr (Or.inr ⟨_, s', ?_, Or.inr ⟨reason, rfl⟩, hwritten,
          fun hs => (hfine hs).2 reason rfl⟩)
        simp only [Writer.turn, h.offer? hleft, hwrite]

/-- What a call has come to that says it has written `n` octets: all was sent, the stream
would block, or it has failed. -/
inductive Outcome (r : Response) (w : Writer) (out : Bytes) (n : Nat) : FlushOutcome → Prop where
  | done (sends : Sends r w out) (nothing : w.toSend = 0) (released : w.file = none) :
    Outcome r w out n (.done n)
  | blocked (sends : Sends r w out) (left : w.toSend ≠ 0) : Outcome r w out n (.blocked n)
  | closed (sent : out <+: r.encode) : Outcome r w out n .closedWhileWriting
  | failed {reason : String} (sent : out <+: r.encode) : Outcome r w out n (.failed reason)

theorem Sends.isPrefixOf (h : Sends r w out) : out <+: r.encode := by
  rw [h.out_eq]
  exact List.take_prefix _ _

/-- Whatever the stream does, it is given what comes next of the response; and if it goes
along the answer tells whether something is left. -/
theorem Sends.sendLoop_cases {s : Stream} (h : Sends r w out) (written : Nat) :
    ∃ answer w' s' taken, w.sendLoop s written = (answer, w', s') ∧
      s'.written = s.written ++ taken ∧
      Outcome r w' (out ++ taken) (written + taken.length) answer ∧
      (s.accepting.all Acceptance.isWilling →
        answer = .done (written + taken.length) ∨ answer = .blocked (written + taken.length)) := by
  fun_induction Writer.sendLoop w s written generalizing out with
  | case1 w s written hdone =>
    refine ⟨_, _, _, [], rfl, (List.append_nil _).symm, ?_, fun _ => Or.inl rfl⟩
    rw [List.append_nil]
    exact .done (h.release hdone) hdone rfl
  | case2 w s written hleft answer w' s' hturn =>
    rcases h.turn_cases hleft s written with ⟨w₁, s₁, taken, hagain, -⟩ |
      ⟨s₁, hstop, hwritten⟩ | ⟨answer₁, s₁, hstop, hanswer, hwritten, hunwilling⟩
    · rw [hagain] at hturn
      cases hturn
    · rw [hstop] at hturn
      cases hturn
      refine ⟨_, _, _, [], rfl, by rw [hwritten, List.append_nil], ?_, fun _ => Or.inr rfl⟩
      rw [List.append_nil]
      exact .blocked h hleft
    · rw [hstop] at hturn
      cases hturn
      refine ⟨_, _, _, [], rfl, by rw [hwritten, List.append_nil], ?_,
        fun hs => absurd hs hunwilling⟩
      rw [List.append_nil]
      rcases hanswer with rfl | ⟨reason, rfl⟩
      · exact .closed h.isPrefixOf
      · exact .failed h.isPrefixOf
  | case3 w s written hleft n w' s' hturn ih =>
    rcases h.turn_cases hleft s written with
      ⟨w₁, s₁, first, hagain, haccepting, hwritten₁, hsends₁⟩ | ⟨s₁, hstop, -⟩ |
      ⟨answer₁, s₁, hstop, -⟩
    · rw [hagain] at hturn
      cases hturn
      obtain ⟨answer, w₂, s₂, taken, hloop, hwritten₂, houtcome, hfine⟩ := ih hsends₁
      rw [Nat.add_assoc, ← List.length_append] at houtcome hfine
      refine ⟨answer, w₂, s₂, first ++ taken, hloop, ?_, ?_, fun hs => hfine ?_⟩
      · rw [hwritten₂, hwritten₁, List.append_assoc]
      · rwa [← List.append_assoc]
      · rw [haccepting]
        exact List.all_eq_true.mpr fun a ha =>
          List.all_eq_true.mp hs a (List.mem_of_mem_tail ha)
    · rw [hstop] at hturn
      cases hturn
    · rw [hstop] at hturn
      cases hturn

/-- A stream that goes along is given what comes next of the response. -/
theorem Sends.sendLoop {s : Stream} (h : Sends r w out)
    (hs : s.accepting.all Acceptance.isWilling) (written : Nat) :
    ∃ answer w' s' taken, w.sendLoop s written = (answer, w', s') ∧
      s'.written = s.written ++ taken ∧ Flushed r w' out taken written answer := by
  obtain ⟨answer, w', s', taken, hloop, hwritten, houtcome, hfine⟩ :=
    h.sendLoop_cases (s := s) written
  refine ⟨answer, w', s', taken, hloop, hwritten, ?_⟩
  cases houtcome with
  | done hsends hnothing hreleased => exact ⟨hsends, Or.inl ⟨rfl, hnothing, hreleased⟩⟩
  | blocked hsends hleft => exact ⟨hsends, Or.inr ⟨rfl, hleft⟩⟩
  | closed | failed => rcases hfine hs with heq | heq <;> cases heq

theorem Sends.flush {script : List Acceptance} (h : Sends r w out)
    (hscript : script.all Acceptance.isWilling) :
    ∃ answer w' s, w.flush { accepting := script } = (answer, w', s) ∧
      Flushed r w' out s.written 0 answer := by
  obtain ⟨answer, w', s, taken, hloop, hwritten, hflushed⟩ :=
    h.sendLoop (s := { accepting := script }) hscript 0
  rw [List.nil_append] at hwritten
  exact ⟨answer, w', s, hloop, hwritten ▸ hflushed⟩

/-! ## Many calls -/

/-- Calls one after another, each with a stream that follows the next script: the answers,
what is left of the writer, and everything that was accepted. -/
def flushAll (w : Writer) : List (List Acceptance) → List FlushOutcome × Writer × Bytes
  | [] => ([], w, [])
  | script :: scripts =>
    match w.flush { accepting := script } with
    | (answer, w, s) =>
      match w.flushAll scripts with
      | (answers, w, out) => (answer :: answers, w, s.written ++ out)

/-- How many octets some flushes say they have written. -/
def countAll : List FlushOutcome → Nat
  | [] => 0
  | answer :: answers => answer.count + countAll answers

/-- The number that a call says it has written is the number of octets accepted. -/
theorem Flushed.count_eq {taken : Bytes} {answer : FlushOutcome}
    (h : Flushed r w' out taken 0 answer) : answer.count = taken.length := by
  rcases h.answer_iff with ⟨rfl, -, -⟩ | ⟨rfl, -⟩ <;> exact Nat.zero_add _

/-- All calls together accept what comes next of the response. -/
theorem Sends.flushAll {scripts : List (List Acceptance)} (h : Sends r w out)
    (hscripts : ∀ script ∈ scripts, script.all Acceptance.isWilling) :
    ∃ answers w' taken, w.flushAll scripts = (answers, w', taken) ∧
      Sends r w' (out ++ taken) ∧ countAll answers = taken.length := by
  induction scripts generalizing w out with
  | nil => exact ⟨[], w, [], rfl, by rwa [List.append_nil], rfl⟩
  | cons script scripts ih =>
    obtain ⟨answer, w₁, s, hflush, hflushed⟩ := h.flush (hscripts script (by simp))
    obtain ⟨answers, w₂, taken, hall, hsends, hcount⟩ :=
      ih hflushed.sends fun script' hmem => hscripts script' (by simp [hmem])
    refine ⟨answer :: answers, w₂, s.written ++ taken, ?_, ?_, ?_⟩
    · rw [Writer.flushAll, hflush]
      simp only [hall]
    · rw [← List.append_assoc]
      exact hsends
    · rw [countAll, hflushed.count_eq, hcount, List.length_append]

/-- **Sending in parts loses nothing and repeats nothing.**  Whatever calls were made on a
response that was put on its way, as long as the streams go along: what was accepted is the
beginning of the head and the file, as long as `sent` says, the two counters add up to the
whole, and so do the numbers that the calls have answered.  One more call is done exactly if
the whole has been accepted with it; the file is let go then, and after that no call writes
anything. -/
theorem flushAll_of_compose {w w₁ : Writer} {r : Response} {scripts : List (List Acceptance)}
    (hcompose : w.compose r = (.ok (), w₁))
    (hscripts : ∀ script ∈ scripts, script.all Acceptance.isWilling) :
    ∃ answers w₂ out, w₁.flushAll scripts = (answers, w₂, out) ∧
      w₁.head ++ w₁.file.getD [] = r.encode ∧
      w₂.head = w₁.head ∧
      out = r.encode.take w₂.sent ∧
      out.length = w₂.sent ∧
      w₂.sent + w₂.toSend = r.encode.length ∧
      countAll answers = w₂.sent ∧
      ∀ script : List Acceptance, script.all Acceptance.isWilling →
        ∃ answer w₃ s, w₂.flush { accepting := script } = (answer, w₃, s) ∧
          ((answer = .done s.written.length ∧ out ++ s.written = r.encode ∧
              w₃.isIdle ∧ w₃.file = none ∧ ∀ s', w₃.flush s' = (.done 0, w₃, s')) ∨
            (answer = .blocked s.written.length ∧ out ++ s.written ≠ r.encode ∧
              out ++ s.written <+: r.encode ∧ ¬w₃.isIdle)) := by
  have hstart := sends_of_compose hcompose
  obtain ⟨answers, w₂, out, hall, hsends, hcount⟩ := hstart.flushAll hscripts
  rw [List.nil_append] at hsends
  have htotal := hsends.total_eq
  have hlength : out.length = w₂.sent := by
    rw [hsends.out_eq, List.length_take]
    omega
  have hwhole : w₁.head ++ w₁.file.getD [] = r.encode := by
    unfold compose at hcompose
    split at hcompose
    case isTrue => cases hcompose
    case isFalse =>
      obtain ⟨-, rfl⟩ := Prod.mk.inj hcompose
      rfl
  refine ⟨answers, w₂, out, hall, hwhole, hsends.head_eq.trans hstart.head_eq.symm,
    hsends.out_eq, hlength, htotal, hcount.trans hlength, fun script hscript => ?_⟩
  obtain ⟨answer, w₃, s, hflush, hflushed⟩ := hsends.flush hscript
  have hiff := hflushed.sends.out_eq_encode_iff
  refine ⟨answer, w₃, s, hflush, ?_⟩
  rcases hflushed.answer_iff with ⟨hdone, hleft, hfile⟩ | ⟨hblocked, hleft⟩
  · refine Or.inl ⟨by rw [hdone, Nat.zero_add], hiff.mpr hleft, by simp [isIdle, hleft], hfile,
      fun s' => ?_⟩
    rw [flush_of_idle hleft, release, ← hfile]
  · refine Or.inr ⟨by rw [hblocked, Nat.zero_add], fun hdone => hleft (hiff.mp hdone), ?_,
      by simp [isIdle, hleft]⟩
    rw [hflushed.sends.out_eq]
    exact List.take_prefix _ _

/-- A head that ends and a file that begins in one write, and a wait in the middle of the
file. -/
theorem flushAll_of_compose_of_three_octets :
    let r : Response := ⟨.ok, true, .file [1, 2, 3]⟩
    let w := ((Writer.ofCapacity 128).compose r).2
    let scripts := [[.upTo 60, .fault .interrupted, .upTo 4, .fault .wouldBlock], [.upTo 1]]
    (Writer.ofCapacity 128).compose r = (.ok (), w) ∧ w.sent + w.toSend = 65 ∧
      ∃ answers w₂ out, w.flushAll scripts = (answers, w₂, out) ∧
        out = r.encode.take w₂.sent ∧ countAll answers = w₂.sent := by
  intro r w scripts
  have hcompose : (Writer.ofCapacity 128).compose r = (.ok (), w) := by decide +kernel
  obtain ⟨answers, w₂, out, hall, -, -, hout, -, -, hcount, -⟩ :=
    flushAll_of_compose hcompose (show ∀ script ∈ scripts, _ from by decide)
  exact ⟨hcompose, by decide +kernel, answers, w₂, out, hall, hout, hcount⟩

end Writer
end Http
end SiteServer
