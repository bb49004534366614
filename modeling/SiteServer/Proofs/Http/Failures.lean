import SiteServer.Http.Dispatch
import SiteServer.Proofs.Http.Sending

/-!
# Calls after a failure

A writer whose stream has failed lets the file go, and leaves its cursors and counters where they
are.  What a later call comes to depends on where the failure has struck.

* In the head, or right behind it: what is left of the head is offered, and behind it nothing.
  The numbers go on being those of the response (`Tracks`), so that no call does any harm; and if
  there was a file no call is done (`Tracks.sendLoop_cases`).
* Behind the first octet of the file: the cursor points into a file that is not there, so that
  the next call ends the dispatch (`Tracks.flush_of_torn`).

`run_eq_none_iff` says that a dispatch comes to its end in this way only.
-/

namespace SiteServer
namespace Http
namespace Writer

variable {w w' : Writer} {r : Response} {out rest : Bytes}

/-! ## Writes of what is offered -/

theorem advance_zero (w : Writer) : w.advance 0 = w := by
  simp [advance]

/-- Whatever there is to offer: some of it is accepted, or nothing for now, or the stream has
failed and the file is let go. -/
theorem turn_cases_of_offer (hoffer : w.offer? = some rest) (s : Stream) (written : Nat) :
    (∃ n s', n ≤ rest.length ∧ w.turn s written = .again n (w.advance n) s' ∧
        s'.written = s.written ++ rest.take n) ∨
      (∃ s', w.turn s written = .stop (.blocked written) w s' ∧ s'.written = s.written) ∨
      ∃ answer s', w.turn s written = .stop answer w.release s' ∧ answer.isFailure = true ∧
        s'.written = s.written := by
  cases hwrite : s.write rest with
  | mk result s' =>
    obtain ⟨-, ⟨n, rfl, hn, hwritten⟩ | ⟨f, rfl, hwritten⟩⟩ := Stream.write_cases hwrite
    · cases n with
      | zero =>
        rw [List.take_zero, List.append_nil] at hwritten
        refine Or.inr (Or.inr ⟨.closedWhileWriting, s', ?_, rfl, hwritten⟩)
        simp only [turn, hoffer, hwrite]
      | succ n => exact Or.inl ⟨n + 1, s', hn, by simp only [turn, hoffer, hwrite], hwritten⟩
    · cases f with
      | wouldBlock =>
        exact Or.inr (Or.inl ⟨s', by simp only [turn, hoffer, hwrite], hwritten⟩)
      | interrupted =>
        refine Or.inl ⟨0, s', Nat.zero_le _, ?_, by rw [hwritten, List.take_zero, List.append_nil]⟩
        simp only [turn, hoffer, hwrite, advance_zero]
      | failed reason =>
        refine Or.inr (Or.inr ⟨.failed reason, s', ?_, rfl, hwritten⟩)
        simp only [turn, hoffer, hwrite]

/-! ## The numbers of a response -/

/-- The cursors and the counters are those of a writer that sends a response, of which `out` has
been accepted.  The file may have been let go. -/
def Tracks (r : Response) (w : Writer) (out : Bytes) : Prop :=
  Sends r { w with file := r.attachment? } out

theorem Sends.tracks (h : Sends r w out) : Tracks r w out :=
  ⟨h.head_eq, h.headSent_eq, h.fileSent_eq, h.total_eq, h.out_eq, fun _ => rfl⟩

theorem Tracks.release (h : Tracks r w out) : Tracks r w.release out := h

theorem Tracks.length_eq (h : Tracks r w out) : out.length = w.sent := by
  have htotal : w.sent + w.toSend = r.encode.length := h.total_eq
  have hout : out = r.encode.take w.sent := h.out_eq
  rw [hout, List.length_take]
  exact Nat.min_eq_left (by omega)

/-- Whether a call can go on: the file is held, or the cursor has not come to it. -/
def Able (r : Response) (w : Writer) : Prop :=
  w.file = r.attachment? ∨ w.file = none ∧ w.sent ≤ r.head.length

/-- A writer that can go on offers what comes next of the response, the whole of it or what is
left of the head. -/
theorem Tracks.offer? (h : Tracks r w out) (ha : Able r w) (hleft : w.toSend ≠ 0) :
    ∃ rest, w.offer? = some rest ∧ rest <+: r.encode.drop w.sent ∧
      (w.file = none → w.sent ≤ r.head.length → w.sent + rest.length ≤ r.head.length) := by
  rcases ha with hfile | ⟨hfile, hsent⟩
  · have hsame : ({ w with file := r.attachment? } : Writer) = w := by rw [← hfile]
    have hoffer := Sends.offer? h hleft
    rw [hsame] at hoffer
    refine ⟨_, hoffer, List.prefix_refl _, fun hnone hsent => ?_⟩
    rw [List.length_drop, Response.encode, ← hfile, hnone, Option.getD_none, List.append_nil]
    omega
  · have hheadSent : w.headSent = min w.sent r.head.length := h.headSent_eq
    have hfileSent : w.fileSent = w.sent - r.head.length := h.fileSent_eq
    have hhead : w.head = r.head := h.head_eq
    refine ⟨r.head.drop w.sent, ?_, ?_, fun _ _ => ?_⟩
    · rw [Writer.offer?, hfile, hhead, hheadSent, hfileSent, Nat.min_eq_left hsent,
        Nat.sub_eq_zero_of_le hsent, left?, left?, if_pos hsent]
      simp
    · rw [Response.encode, List.drop_append_of_le_length hsent]
      exact List.prefix_append _ _
    · rw [List.length_drop]
      omega

theorem Tracks.advance (h : Tracks r w out) (ha : Able r w) {n : Nat}
    (hbegins : rest <+: r.encode.drop w.sent) (hn : n ≤ rest.length)
    (hbelow : w.file = none → w.sent ≤ r.head.length → w.sent + rest.length ≤ r.head.length) :
    Tracks r (w.advance n) (out ++ rest.take n) ∧ Able r (w.advance n) := by
  obtain ⟨more, hmore⟩ := hbegins
  have htotal : w.sent + w.toSend = r.encode.length := h.total_eq
  have hlength := congrArg List.length hmore
  rw [List.length_append, List.length_drop] at hlength
  have htake : rest.take n = (r.encode.drop w.sent).take n := by
    rw [← hmore, List.take_append_of_le_length hn]
  rw [htake]
  refine ⟨Sends.advance h (n := n) ?_, ?_⟩
  · show n ≤ w.toSend
    omega
  · rcases ha with hfile | ⟨hfile, hsent⟩
    · exact Or.inl hfile
    · have hfit := hbelow hfile hsent
      refine Or.inr ⟨hfile, ?_⟩
      show w.sent + n ≤ r.head.length
      omega

/-! ## One call -/

/-- How a call has ended with `w'` on a writer that held `file`. -/
inductive Ended (r : Response) (file : Option Bytes) (w' : Writer) (out : Bytes) :
    FlushOutcome → Prop where
  | done (n : Nat) (tracks : Tracks r w' out) (nothing : w'.toSend = 0)
    (released : w'.file = none) : Ended r file w' out (.done n)
  | blocked (n : Nat) (tracks : Tracks r w' out) (kept : w'.file = file) :
    Ended r file w' out (.blocked n)
  | failed {answer : FlushOutcome} (failure : answer.isFailure = true) (tracks : Tracks r w' out)
    (left : w'.toSend ≠ 0) (released : w'.file = none) : Ended r file w' out answer

theorem Ended.in_range {file : Option Bytes} {answer : FlushOutcome}
    (h : Ended r file w' out answer) : answer ≠ .outOfRange := by
  cases h with
  | done | blocked => simp
  | failed failure =>
    rintro rfl
    cases failure

/-- A call that is done has sent the whole. -/
theorem Ended.eq_encode {file : Option Bytes} {n : Nat} (h : Ended r file w' out (.done n)) :
    out = r.encode := by
  cases h with
  | done _ tracks nothing => exact tracks.out_eq_encode_iff.mpr nothing
  | failed failure => cases failure

/-- A call on a writer that can go on ends in one of the three ways, whatever the stream does.
Without the file it does not come behind the head. -/
theorem Tracks.sendLoop_cases (h : Tracks r w out) (ha : w.toSend ≠ 0 → Able r w) (s : Stream)
    (written : Nat) :
    ∃ answer w' s' taken, w.sendLoop s written = (answer, w', s') ∧
      s'.written = s.written ++ taken ∧ Ended r w.file w' (out ++ taken) answer ∧
      (w.file = none → w.sent ≤ r.head.length → w'.sent ≤ r.head.length) := by
  fun_induction Writer.sendLoop w s written generalizing out with
  | case1 w s written hdone =>
    refine ⟨_, _, _, [], rfl, (List.append_nil _).symm, ?_, fun _ hsent => hsent⟩
    rw [List.append_nil]
    exact .done written h.release hdone rfl
  | case2 w s written hleft answer w' s' hturn =>
    obtain ⟨rest, hoffer, -, -⟩ := h.offer? (ha hleft) hleft
    rcases turn_cases_of_offer hoffer s written with ⟨n, s₁, -, hagain, -⟩ |
      ⟨s₁, hstop, hwritten⟩ | ⟨answer₁, s₁, hstop, hfailure, hwritten⟩
    · rw [hagain] at hturn
      cases hturn
    · rw [hstop] at hturn
      cases hturn
      refine ⟨_, _, _, [], rfl, by rw [hwritten, List.append_nil], ?_, fun _ hsent => hsent⟩
      rw [List.append_nil]
      exact .blocked written h rfl
    · rw [hstop] at hturn
      cases hturn
      refine ⟨_, _, _, [], rfl, by rw [hwritten, List.append_nil], ?_, fun _ hsent => hsent⟩
      rw [List.append_nil]
      exact .failed hfailure h.release hleft rfl
  | case3 w s written hleft n w' s' hturn ih =>
    obtain ⟨rest, hoffer, hbegins, hbelow⟩ := h.offer? (ha hleft) hleft
    rcases turn_cases_of_offer hoffer s written with ⟨n, s₁, hn, hagain, hwritten⟩ |
      ⟨s₁, hstop, -⟩ | ⟨answer₁, s₁, hstop, -⟩
    · rw [hagain] at hturn
      cases hturn
      obtain ⟨htracks, hable⟩ := h.advance (ha hleft) hbegins hn hbelow
      obtain ⟨answer, w₂, s₂, taken, hloop, hwritten₂, hended, hhead⟩ :=
        ih htracks fun _ => hable
      refine ⟨answer, w₂, s₂, rest.take n ++ taken, hloop, ?_, ?_, fun hfile hsent => ?_⟩
      · rw [hwritten₂, hwritten, List.append_assoc]
      · rw [← List.append_assoc]
        exact hended
      · refine hhead hfile ?_
        have hfit := hbelow hfile hsent
        show w.sent + n ≤ r.head.length
        omega
    · rw [hstop] at hturn
      cases hturn
    · rw [hstop] at hturn
      cases hturn

theorem sendLoop_of_stop {s s' : Stream} {written : Nat} {answer : FlushOutcome}
    (hleft : w.toSend ≠ 0) (h : w.turn s written = .stop answer w' s') :
    w.sendLoop s written = (answer, w', s') := by
  rw [sendLoop, dif_neg hleft]
  split
  case h_1 hstop =>
    rw [h] at hstop
    cases hstop
    rfl
  case h_2 hagain =>
    rw [h] at hagain
    cases hagain

theorem sendLoop_of_again {s s' : Stream} {written n : Nat} (hleft : w.toSend ≠ 0)
    (h : w.turn s written = .again n w' s') :
    w.sendLoop s written = w'.sendLoop s' (written + n) := by
  rw [sendLoop, dif_neg hleft]
  split
  case h_1 hstop =>
    rw [h] at hstop
    cases hstop
  case h_2 hagain =>
    rw [h] at hagain
    cases hagain
    rfl

/-- Once the file is let go behind its first octet, and something is left, a call has nowhere to
look. -/
theorem Tracks.flush_of_torn (h : Tracks r w out) (hleft : w.toSend ≠ 0) (hfile : w.file = none)
    (hsent : r.head.length < w.sent) (s : Stream) : w.flush s = (.outOfRange, w, s) := by
  have hfileSent : w.fileSent = w.sent - r.head.length := h.fileSent_eq
  have hbeyond : left? (w.file.getD []) w.fileSent = none := by
    rw [left?, hfile, if_neg]
    simp only [Option.getD_none, List.length_nil]
    omega
  have hoffer : w.offer? = none := by
    unfold Writer.offer?
    rw [hbeyond]
    cases left? w.head w.headSent <;> rfl
  exact sendLoop_of_stop hleft (by simp only [turn, hoffer])

theorem Sends.flush_of_reset (h : Sends r w out) {n : Nat} (hpos : 0 < n) (hn : n < w.toSend)
    (reason : String) :
    w.flush { accepting := [.upTo n, .fault (.failed reason)] } =
      (.failed reason, (w.advance n).release,
        { accepting := [], written := (r.encode.drop w.sent).take n }) := by
  have htotal := h.total_eq
  obtain ⟨k, rfl⟩ : ∃ k, n = k + 1 := ⟨n - 1, by omega⟩
  have hnext := h.advance (n := k + 1) (Nat.le_of_lt hn)
  have hleft : (w.advance (k + 1)).toSend ≠ 0 := by
    show w.toSend - (k + 1) ≠ 0
    omega
  have hlength : min (k + 1) (r.encode.drop w.sent).length = k + 1 := by
    rw [List.length_drop]
    omega
  have hfirst : w.turn { accepting := [.upTo (k + 1), .fault (.failed reason)] } 0 =
      .again (k + 1) (w.advance (k + 1))
        ⟨[], [.fault (.failed reason)], (r.encode.drop w.sent).take (k + 1)⟩ := by
    simp only [turn, h.offer? (by omega : w.toSend ≠ 0), Stream.write, hlength, List.nil_append]
  rw [Writer.flush, sendLoop_of_again (by omega) hfirst]
  refine sendLoop_of_stop hleft ?_
  simp only [turn, hnext.offer? hleft, Stream.write]

end Writer

namespace Dispatch

variable {d d' : Dispatch} {uses : List Use}

/-! ## What has become of the response -/

/-- The octets of the response that is on its way. -/
def whole (d : Dispatch) : Bytes := (d.response.map Response.encode).getD []

/-- Whether a call has failed behind the first octet of the file. -/
def IsTorn (d : Dispatch) : Prop :=
  d.failed = true ∧ ∃ r, d.response = some r ∧ r.head.length < d.accepted.length

/-- Where a dispatch can be: nothing is on its way, or no call has failed, or one has failed
before the file, or one behind its first octet. -/
inductive State (d : Dispatch) : Prop where
  | idle (response : d.response = none) (accepted : d.accepted = []) (failed : d.failed = false)
    (nothing : d.writer.toSend = 0)
  | going (r : Response) (response : d.response = some r)
    (tracks : d.writer.Tracks r d.accepted) (failed : d.failed = false)
    (held : d.writer.toSend ≠ 0 → d.writer.file = r.attachment?)
  | stranded (r : Response) (response : d.response = some r)
    (tracks : d.writer.Tracks r d.accepted) (failed : d.failed = true)
    (released : d.writer.file = none) (before : d.writer.sent ≤ r.head.length)
  | torn (r : Response) (response : d.response = some r)
    (tracks : d.writer.Tracks r d.accepted) (failed : d.failed = true)
    (released : d.writer.file = none) (behind : r.head.length < d.writer.sent)
    (left : d.writer.toSend ≠ 0)

theorem whole_of_response {r : Response} (h : d.response = some r) : d.whole = r.encode := by
  rw [whole, h, Option.map_some, Option.getD_some]

theorem isTorn_iff_of_tracks {r : Response} (hresponse : d.response = some r)
    (htracks : d.writer.Tracks r d.accepted) :
    d.IsTorn ↔ d.failed = true ∧ r.head.length < d.writer.sent := by
  simp only [IsTorn, hresponse, Option.some.injEq, exists_eq_left', htracks.length_eq]

theorem flush_of_nothing (hdone : d.writer.toSend = 0) (script : List Acceptance) :
    d.flush script = (.done 0, { d with writer := d.writer.release }) := by
  simp [Dispatch.flush, Writer.flush_of_idle hdone, FlushOutcome.isFailure]

theorem flush_of_tracks {r : Response} (htracks : d.writer.Tracks r d.accepted)
    (ha : d.writer.Able r) (script : List Acceptance) :
    ∃ answer w' taken,
      d.flush script = (answer, { d with
        writer := w'
        accepted := d.accepted ++ taken
        failed := d.failed || answer.isFailure }) ∧
      w'.Ended r d.writer.file (d.accepted ++ taken) answer ∧
      (d.writer.file = none → d.writer.sent ≤ r.head.length → w'.sent ≤ r.head.length) := by
  obtain ⟨answer, w', s', taken, hloop, hwritten, hended, hhead⟩ :=
    htracks.sendLoop_cases (fun _ => ha) { accepting := script } 0
  rw [List.nil_append] at hwritten
  refine ⟨answer, w', taken, ?_, hended, hhead⟩
  rw [Dispatch.flush, Writer.flush, hloop, ← hwritten]

/-- What a call comes to that can be made: it answers, the dispatch is in order again, and if
the call is done the whole has been accepted. -/
structure Answered (d : Dispatch) (answer : FlushOutcome) (d' : Dispatch) : Prop where
  in_range : answer ≠ .outOfRange
  state : State d'
  response_eq : d'.response = d.response
  done : ∀ n, answer = .done n → d'.accepted = d.whole

/-- With nothing left to send a call is done. -/
theorem State.answered_of_nothing (h : State d) (hdone : d.writer.toSend = 0) :
    Answered d (.done 0) { d with writer := d.writer.release } := by
  cases h with
  | idle response accepted failed nothing =>
    refine ⟨by simp, .idle response accepted failed nothing, rfl, fun _ _ => ?_⟩
    rw [whole, response, accepted]
    rfl
  | going r response tracks failed held =>
    refine ⟨by simp, .going r response tracks.release failed fun hleft => absurd hdone hleft, rfl,
      fun _ _ => ?_⟩
    rw [whole_of_response response]
    exact tracks.out_eq_encode_iff.mpr hdone
  | stranded r response tracks failed released before =>
    refine ⟨by simp, .stranded r response tracks.release failed rfl before, rfl, fun _ _ => ?_⟩
    rw [whole_of_response response]
    exact tracks.out_eq_encode_iff.mpr hdone
  | torn r response tracks failed released behind left => exact absurd hdone left

theorem State.of_failure {r : Response} (hresponse : d.response = some r)
    (htracks : d.writer.Tracks r d.accepted) (hfailed : d.failed = true)
    (hreleased : d.writer.file = none) (hleft : d.writer.toSend ≠ 0) : State d := by
  rcases Nat.lt_or_ge r.head.length d.writer.sent with hbehind | hbefore
  · exact .torn r hresponse htracks hfailed hreleased hbehind hleft
  · exact .stranded r hresponse htracks hfailed hreleased hbefore

/-- A torn dispatch has let the file go, and its cursor stands behind the beginning of it. -/
theorem State.released_of_isTorn (h : State d) (htorn : d.IsTorn) :
    ∃ r, d.writer.Tracks r d.accepted ∧ d.writer.file = none ∧ d.writer.toSend ≠ 0 ∧
      r.head.length < d.writer.sent := by
  cases h with
  | idle response =>
    obtain ⟨-, r, hr, -⟩ := htorn
    rw [response] at hr
    cases hr
  | going r response tracks failed =>
    rw [htorn.1] at failed
    cases failed
  | stranded r response tracks failed released before =>
    have hbehind := ((isTorn_iff_of_tracks response tracks).mp htorn).2
    omega
  | torn r response tracks failed released behind left =>
    exact ⟨r, tracks, released, left, behind⟩

/-- A call on a dispatch that is not torn answers, whatever the stream does. -/
theorem State.answered (h : State d) (htorn : ¬d.IsTorn) (script : List Acceptance) :
    ∃ answer d', d.flush script = (answer, d') ∧ Answered d answer d' := by
  by_cases hdone : d.writer.toSend = 0
  · exact ⟨_, _, flush_of_nothing hdone script, h.answered_of_nothing hdone⟩
  cases h with
  | idle response accepted failed nothing => exact absurd nothing hdone
  | torn r response tracks failed released behind left =>
    exact absurd ((isTorn_iff_of_tracks response tracks).mpr ⟨failed, behind⟩) htorn
  | going r response tracks failed held =>
    obtain ⟨answer, w', taken, hflush, hended, -⟩ :=
      flush_of_tracks tracks (Or.inl (held hdone)) script
    refine ⟨_, _, hflush, hended.in_range, ?_, rfl, fun n hanswer => ?_⟩
    · cases hended with
      | done n tracks' nothing =>
        exact .going r response tracks' ((Bool.or_false _).trans failed)
          fun hleft => absurd nothing hleft
      | blocked n tracks' kept =>
        exact .going r response tracks' ((Bool.or_false _).trans failed)
          fun _ => kept.trans (held hdone)
      | failed failure tracks' left released =>
        exact .of_failure response tracks' (by rw [failure, Bool.or_true]) released left
    · rw [whole_of_response response]
      exact (hanswer ▸ hended).eq_encode
  | stranded r response tracks failed released before =>
    obtain ⟨answer, w', taken, hflush, hended, hhead⟩ :=
      flush_of_tracks tracks (Or.inr ⟨released, before⟩) script
    refine ⟨_, _, hflush, hended.in_range, ?_, rfl, fun n hanswer => ?_⟩
    · have hbefore := hhead released before
      have hfailed : (d.failed || answer.isFailure) = true := by rw [failed, Bool.true_or]
      cases hended with
      | done n tracks' nothing released' =>
        exact .stranded r response tracks' hfailed released' hbefore
      | blocked n tracks' kept =>
        exact .stranded r response tracks' hfailed (kept.trans released) hbefore
      | failed failure tracks' left released' =>
        exact .stranded r response tracks' hfailed released' hbefore
    · rw [whole_of_response response]
      exact (hanswer ▸ hended).eq_encode

/-- On a torn dispatch a call ends it, whatever the stream would do. -/
theorem State.outOfRange (h : State d) (htorn : d.IsTorn) (script : List Acceptance) :
    (d.flush script).1 = .outOfRange := by
  obtain ⟨r, htracks, hfile, hleft, hbehind⟩ := h.released_of_isTorn htorn
  rw [Dispatch.flush, htracks.flush_of_torn hleft hfile hbehind]

/-! ## Uses in any order -/

theorem state_ofCapacity (capacity : Nat) : State (ofCapacity capacity) :=
  .idle rfl rfl rfl rfl

/-- A response that is put on its way is in order, whatever was on its way before. -/
theorem step_compose (d : Dispatch) (r : Response) :
    ∃ d', d.step (.compose r) = some d' ∧ State d' := by
  cases hcompose : d.writer.compose r with
  | mk result w' =>
    cases result with
    | ok =>
      have hsends := Writer.sends_of_compose hcompose
      exact ⟨{ writer := w', response := some r }, by rw [step, hcompose],
        .going r rfl hsends.tracks rfl hsends.file_eq⟩
    | error e =>
      refine ⟨{ writer := w' }, by rw [step, hcompose], .idle rfl rfl rfl ?_⟩
      unfold Writer.compose at hcompose
      split at hcompose
      case isTrue =>
        cases hcompose
        rfl
      case isFalse => cases hcompose

/-- A use ends the dispatch exactly if it is a call on a torn one, and leaves it in order
otherwise. -/
theorem State.step_cases (h : State d) (use : Use) :
    (∃ d', d.step use = some d' ∧ State d' ∧ ¬(d.IsTorn ∧ ∃ script, use = .flush script)) ∨
      (d.step use = none ∧ d.IsTorn ∧ ∃ script, use = .flush script) := by
  cases use with
  | compose r =>
    obtain ⟨d', hstep, hstate⟩ := step_compose d r
    exact Or.inl ⟨d', hstep, hstate, by simp⟩
  | clear => exact Or.inl ⟨_, rfl, .idle rfl rfl rfl rfl, by simp⟩
  | flush script =>
    by_cases htorn : d.IsTorn
    · refine Or.inr ⟨?_, htorn, script, rfl⟩
      have hanswer := h.outOfRange htorn script
      rw [step]
      cases hflush : d.flush script with
      | mk answer d' =>
        rw [hflush] at hanswer
        cases hanswer
        rfl
    · obtain ⟨answer, d', hflush, hanswered⟩ := h.answered htorn script
      refine Or.inl ⟨d', ?_, hanswered.state, fun hcall => htorn hcall.1⟩
      rw [step, hflush]
      cases answer with
      | outOfRange => exact absurd rfl hanswered.in_range
      | done | blocked | closedWhileWriting | failed => rfl

/-- Uses one after another leave a dispatch in order. -/
theorem State.run (h : State d) (hrun : d.run uses = some d') : State d' := by
  induction uses generalizing d with
  | nil =>
    cases hrun
    exact h
  | cons use uses ih =>
    rcases h.step_cases use with ⟨d₁, hstep, hstate, -⟩ | ⟨hstep, -⟩
    · rw [Dispatch.run, List.foldlM_cons, hstep] at hrun
      exact ih hstate hrun
    · rw [Dispatch.run, List.foldlM_cons, hstep] at hrun
      cases hrun

/-- A dispatch is ended by the first call on a torn one, and in no other way. -/
theorem State.run_eq_none_iff (h : State d) :
    d.run uses = none ↔ ∃ earlier script later torn, uses = earlier ++ .flush script :: later ∧
      d.run earlier = some torn ∧ torn.IsTorn := by
  induction uses generalizing d with
  | nil => simp [Dispatch.run]
  | cons use uses ih =>
    rcases h.step_cases use with ⟨d₁, hstep, hstate, hcall⟩ | ⟨hstep, htorn, script, rfl⟩
    · rw [Dispatch.run, List.foldlM_cons, hstep]
      refine (ih hstate).trans ⟨?_, ?_⟩
      · rintro ⟨earlier, script, later, torn, rfl, hrun, htorn⟩
        refine ⟨use :: earlier, script, later, torn, rfl, ?_, htorn⟩
        rw [Dispatch.run, List.foldlM_cons, hstep]
        exact hrun
      · rintro ⟨earlier, script, later, torn, huses, hrun, htorn⟩
        cases earlier with
        | nil =>
          cases huses
          cases hrun
          exact absurd ⟨htorn, script, rfl⟩ hcall
        | cons first earlier =>
          cases huses
          rw [Dispatch.run, List.foldlM_cons, hstep] at hrun
          exact ⟨earlier, script, later, torn, rfl, hrun, htorn⟩
    · rw [Dispatch.run, List.foldlM_cons, hstep]
      exact iff_of_true rfl ⟨[], script, uses, d, rfl, rfl, htorn⟩

theorem State.sound (h : State d) :
    d.accepted <+: d.whole ∧ (d.failed = true → d.writer.file = none) ∧
      ∀ r, d.response = some r → d.writer.headSent ≤ r.head.length ∧
        d.accepted.length = d.writer.sent ∧
        d.writer.sent + d.writer.toSend = r.encode.length := by
  have hnumbers {r : Response} (hresponse : d.response = some r)
      (htracks : d.writer.Tracks r d.accepted) :
      d.accepted <+: d.whole ∧ ∀ r, d.response = some r → d.writer.headSent ≤ r.head.length ∧
        d.accepted.length = d.writer.sent ∧
        d.writer.sent + d.writer.toSend = r.encode.length := by
    refine ⟨by rw [whole_of_response hresponse]; exact htracks.isPrefixOf, fun r' hr' => ?_⟩
    rw [hresponse] at hr'
    cases hr'
    exact ⟨le_of_eq_of_le htracks.headSent_eq (Nat.min_le_right _ _), htracks.length_eq,
      htracks.total_eq⟩
  cases h with
  | idle response accepted failed nothing =>
    refine ⟨by rw [accepted]; exact List.nil_prefix, by simp [failed], by simp [response]⟩
  | going r response tracks failed held =>
    exact ⟨(hnumbers response tracks).1, by simp [failed], (hnumbers response tracks).2⟩
  | stranded r response tracks failed released =>
    exact ⟨(hnumbers response tracks).1, fun _ => released, (hnumbers response tracks).2⟩
  | torn r response tracks failed released =>
    exact ⟨(hnumbers response tracks).1, fun _ => released, (hnumbers response tracks).2⟩

/-- **Calls after a failure.**  Responses are put on their way, sent over streams that do as they
like, and dropped, in any order.  That comes to an end exactly by a call after the stream has
failed behind the first octet of a file.  Until then what has been accepted is the beginning of
the head and the file, the numbers agree with it, and a file that was let go after a failure
stays so; a call is done only with the whole; and it looks beyond a segment only if the dispatch
is torn. -/
theorem survives_unless_torn (capacity : Nat) (uses : List Use) :
    ((ofCapacity capacity).run uses = none ↔
        ∃ earlier script later torn, uses = earlier ++ .flush script :: later ∧
          (ofCapacity capacity).run earlier = some torn ∧ torn.IsTorn) ∧
      ∀ d, (ofCapacity capacity).run uses = some d →
        d.accepted <+: d.whole ∧
        (d.failed = true → d.writer.file = none) ∧
        (∀ r, d.response = some r → d.writer.headSent ≤ r.head.length ∧
          d.accepted.length = d.writer.sent ∧
          d.writer.sent + d.writer.toSend = r.encode.length) ∧
        ∀ script answer d', d.flush script = (answer, d') →
          (answer = .outOfRange ↔ d.IsTorn) ∧
          ∀ n, answer = .done n → d'.accepted = d.whole := by
  have hstart := state_ofCapacity capacity
  refine ⟨hstart.run_eq_none_iff, fun d hrun => ?_⟩
  have hstate := hstart.run hrun
  obtain ⟨hbegins, hreleased, hnumbers⟩ := hstate.sound
  refine ⟨hbegins, hreleased, hnumbers, fun script answer d' hflush => ?_⟩
  by_cases htorn : d.IsTorn
  · have hanswer := hstate.outOfRange htorn script
    rw [hflush] at hanswer
    exact ⟨iff_of_true hanswer htorn, fun n hdone => by rw [hdone] at hanswer; cases hanswer⟩
  · obtain ⟨answer₁, d₁, hflush₁, hanswered⟩ := hstate.answered htorn script
    rw [hflush₁] at hflush
    cases hflush
    exact ⟨iff_of_false hanswered.in_range htorn, hanswered.done⟩

/-- After a stream that has failed behind `n` octets the dispatch is torn exactly if that is
behind the first octet of the file. -/
theorem run_of_reset (capacity : Nat) {n : Nat} {r : Response} (hfit : r.head.length ≤ capacity)
    (hpos : 0 < n) (hn : n < r.encode.length) (reason : String) :
    ∃ d, (ofCapacity capacity).run [.compose r, .flush [.upTo n, .fault (.failed reason)]]
        = some d ∧
      d.failed = true ∧ d.accepted = r.encode.take n ∧ (d.IsTorn ↔ r.head.length < n) := by
  obtain ⟨w, hcompose⟩ : ∃ w, (Writer.ofCapacity capacity).compose r = (.ok (), w) := by
    have hroom : ¬(Writer.ofCapacity capacity).capacity < r.head.length := Nat.not_lt.mpr hfit
    unfold Writer.compose
    rw [if_neg hroom]
    exact ⟨_, rfl⟩
  have hsends := Writer.sends_of_compose hcompose
  have hsent : w.sent = 0 := by
    have hout := congrArg List.length hsends.out_eq
    rw [List.length_nil, List.length_take] at hout
    omega
  have htotal := hsends.total_eq
  have hflush := hsends.flush_of_reset hpos (by omega) reason
  rw [hsent, List.drop_zero] at hflush
  refine ⟨⟨(w.advance n).release, some r, r.encode.take n, true⟩, ?_, rfl, rfl, ?_⟩
  · simp only [run, List.foldlM_cons, List.foldlM_nil, step, Dispatch.flush, ofCapacity, hcompose,
      hflush, Option.bind_eq_bind, Option.bind_some, List.nil_append, FlushOutcome.isFailure,
      Bool.or_true, Option.pure_def]
  · simp only [IsTorn, Option.some.injEq, exists_eq_left', List.length_take, true_and]
    omega

/-- A stream that fails in the head: the next call sends the rest of the head, and answers. -/
theorem survives_unless_torn_of_three_octets :
    let r : Response := ⟨.ok, false, .file [97, 98, 99]⟩
    let uses : List Use := [.compose r, .flush [.upTo 20, .fault (.failed "reset")]]
    ∃ d, (ofCapacity 1024).run uses = some d ∧ d.failed = true ∧ d.writer.file = none ∧
      d.accepted.length = 20 ∧ ∀ script, (d.flush script).1 ≠ .outOfRange := by
  intro r uses
  obtain ⟨d, hrun, hfailed, haccepted, htorn⟩ :=
    run_of_reset 1024 (r := r) (n := 20) (by decide +kernel) (by decide)
      (by decide +kernel) "reset"
  obtain ⟨-, hsound⟩ := survives_unless_torn 1024 uses
  obtain ⟨-, hreleased, -, hcalls⟩ := hsound d hrun
  refine ⟨d, hrun, hfailed, hreleased hfailed, ?_, fun script hanswer => ?_⟩
  · rw [haccepted]
    decide +kernel
  · have hbehind := htorn.mp ((hcalls script _ _ rfl).1.mp hanswer)
    exact absurd hbehind (by decide +kernel)

/-- A stream that fails behind the first octet of the file: the next call ends the dispatch. -/
theorem torn_by_second_octet :
    let r : Response := ⟨.ok, false, .file [97, 98, 99]⟩
    let uses : List Use := [.compose r, .flush [.upTo 58, .fault (.failed "reset")]]
    (∃ d, (ofCapacity 1024).run uses = some d) ∧
      ∀ script, (ofCapacity 1024).run (uses ++ [.flush script]) = none := by
  intro r uses
  obtain ⟨d, hrun, -, -, htorn⟩ :=
    run_of_reset 1024 (r := r) (n := 58) (by decide +kernel) (by decide)
      (by decide +kernel) "reset"
  refine ⟨⟨d, hrun⟩, fun script => ?_⟩
  exact (state_ofCapacity 1024).run_eq_none_iff.mpr
    ⟨uses, script, [], d, rfl, hrun, htorn.mpr (by decide +kernel)⟩

end Dispatch
end Http
end SiteServer
