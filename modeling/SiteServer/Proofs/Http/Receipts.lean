import SiteServer.Proofs.Http.Heads
import SiteServer.Proofs.Http.Sending

/-!
# Responses that arrive

A connection that stays open sends one response after another over one stream, with one writer
that puts each of them on its way and flushes until all of it is sent.  The stream does as it
likes in between (`Completes`, `Delivers`).  A client at the other end that knows nothing but the
octets gets all responses back, in their order and with nothing left over.

What makes it so is that the writer sends a response as it is encoded, in however many parts
(`Sends.completes`), and that what is encoded reads back whatever follows it
(`Receipt.next?_encode_append`).

A response whose head does not fit is refused instead.  Then the writer is as good as new, and
neither this response nor what is left of the one before reaches the stream.
-/

namespace SiteServer
namespace Http

/-- The length of the body as far as it is sent along with the head. -/
def Body.inlineLength : Body → Nat
  | .inline text => (Utf8.encode text).length
  | .file _ => 0

theorem Response.length_head (r : Response) :
    r.head.length = (Utf8.encode r.headText).length + r.body.inlineLength := by
  unfold head
  rw [List.length_append]
  cases r.body <;> rfl

namespace Writer

variable {w w' : Writer} {s s' : Stream} {r : Response} {rs : List Response} {out : Bytes}

/-- The writer sends all it has left, in as many calls as it takes.  Between two calls the stream
may change in everything but what it has accepted. -/
inductive Completes : Writer → Stream → Writer → Stream → Prop
  | done {w w' : Writer} {s s' : Stream} {n : Nat} :
      w.flush s = (.done n, w', s') → Completes w s w' s'
  | blocked {w w₁ w' : Writer} {s s₁ s₂ s' : Stream} {n : Nat} :
      w.flush s = (.blocked n, w₁, s₁) → s₂.written = s₁.written →
      Completes w₁ s₂ w' s' → Completes w s w' s'

/-- The writer accepts the responses one after another and sends each of them completely before
the next one. -/
inductive Delivers : Writer → Stream → List Response → Writer → Stream → Prop
  | nil (w : Writer) (s : Stream) : Delivers w s [] w s
  | cons {w w₁ w₂ w' : Writer} {s s₁ s₂ s' : Stream} {r : Response} {rs : List Response} :
      w.compose r = (.ok (), w₁) → Completes w₁ s w₂ s₁ → s₂.written = s₁.written →
      Delivers w₂ s₂ rs w' s' → Delivers w s (r :: rs) w' s'

/-! ## What reaches the stream -/

/-- One call, whatever the stream does: what is accepted comes next of the response. -/
theorem Sends.flush_cases (h : Sends r w out) {answer : FlushOutcome}
    (hflush : w.flush s = (answer, w', s')) :
    ∃ taken, s'.written = s.written ++ taken ∧
      Outcome r w' (out ++ taken) (0 + taken.length) answer := by
  obtain ⟨answer₁, w₁, s₁, taken, hloop, hwritten, houtcome, -⟩ := h.sendLoop_cases (s := s) 0
  rw [Writer.flush, hloop] at hflush
  cases hflush
  exact ⟨taken, hwritten, houtcome⟩

/-- All calls together: what is left of the response reaches the stream, and nothing else. -/
theorem Sends.completes (h : Sends r w out) (hc : Completes w s w' s') :
    ∃ taken, s'.written = s.written ++ taken ∧ out ++ taken = r.encode := by
  induction hc generalizing out with
  | done hflush =>
    obtain ⟨taken, hwritten, houtcome⟩ := h.flush_cases hflush
    cases houtcome with
    | done sends nothing => exact ⟨taken, hwritten, sends.out_eq_encode_iff.mpr nothing⟩
  | blocked hflush hsame _ ih =>
    obtain ⟨first, hwritten, houtcome⟩ := h.flush_cases hflush
    cases houtcome with
    | blocked sends =>
      obtain ⟨taken, hlater, hall⟩ := ih sends
      refine ⟨first ++ taken, ?_, ?_⟩
      · rw [hlater, hsame, hwritten, List.append_assoc]
      · rw [← List.append_assoc, hall]

/-- The responses reach the stream one after another, and nothing else does. -/
theorem Delivers.written_eq (h : Delivers w s rs w' s') :
    s'.written = s.written ++ rs.flatMap Response.encode := by
  induction h with
  | nil w s => exact (List.append_nil _).symm
  | cons hcompose hcompletes hsame _ ih =>
    obtain ⟨taken, hwritten, htaken⟩ := (sends_of_compose hcompose).completes hcompletes
    rw [List.nil_append] at htaken
    rw [ih, hsame, hwritten, htaken, List.flatMap_cons, List.append_assoc]

/-! ## Streams that go along -/

/-- A call leaves the capacity as it is, and what it has used up of the script of the stream is
its beginning. -/
structure Keeps (w w' : Writer) (s s' : Stream) : Prop where
  capacity_eq : w'.capacity = w.capacity
  accepting_suffix : s'.accepting <:+ s.accepting

theorem Keeps.trans {w₁ : Writer} {s₁ : Stream} (h : Keeps w w₁ s s₁) (h' : Keeps w₁ w' s₁ s') :
    Keeps w w' s s' :=
  ⟨h'.capacity_eq.trans h.capacity_eq, h'.accepting_suffix.trans h.accepting_suffix⟩

theorem keeps_of_again {written n : Nat} (h : w.turn s written = .again n w' s') :
    Keeps w w' s s' := by
  unfold turn at h
  split at h
  case h_1 => cases h
  case h_2 offer _ =>
    cases hwrite : s.write offer with
    | mk result s₁ =>
      have hsuffix : s₁.accepting <:+ s.accepting :=
        (Stream.write_cases hwrite).1 ▸ List.tail_suffix _
      rw [hwrite] at h
      rcases result with (_ | _ | _) | (_ | n) <;> cases h <;> exact ⟨rfl, hsuffix⟩

/-- A stream that would block has used up a word on the write. -/
theorem keeps_of_stop {answer : FlushOutcome} {written : Nat}
    (h : w.turn s written = .stop answer w' s') :
    Keeps w w' s s' ∧
      ∀ n, answer = .blocked n → s'.accepting.length < s.accepting.length := by
  unfold turn at h
  split at h
  case h_1 =>
    cases h
    exact ⟨⟨rfl, List.suffix_refl _⟩, fun _ hn => by cases hn⟩
  case h_2 offer _ =>
    cases hwrite : s.write offer with
    | mk result s₁ =>
      have htail := (Stream.write_cases hwrite).1
      have hkeeps : s₁.accepting <:+ s.accepting := htail ▸ List.tail_suffix _
      rw [hwrite] at h
      rcases result with (_ | _ | _) | (_ | n)
      case error.wouldBlock =>
        cases h
        refine ⟨⟨rfl, hkeeps⟩, fun _ _ => ?_⟩
        -- a stream that has nothing said about its next write does not block
        cases haccepting : s.accepting with
        | nil =>
          simp only [Stream.write, haccepting] at hwrite
          cases hwrite
        | cons a rest =>
          rw [htail, haccepting]
          exact Nat.lt_succ_self _
      case error.interrupted => cases h
      case error.failed =>
        cases h
        exact ⟨⟨rfl, hkeeps⟩, fun _ hn => by cases hn⟩
      case ok.zero =>
        cases h
        exact ⟨⟨rfl, hkeeps⟩, fun _ hn => by cases hn⟩
      case ok.succ => cases h

theorem keeps_of_flush {answer : FlushOutcome} (h : w.flush s = (answer, w', s')) :
    Keeps w w' s s' ∧
      ∀ n, answer = .blocked n → s'.accepting.length < s.accepting.length := by
  unfold flush at h
  generalize 0 = written at h
  fun_induction Writer.sendLoop w s written with
  | case1 w s written hdone =>
    cases h
    exact ⟨⟨rfl, List.suffix_refl _⟩, fun _ hn => by cases hn⟩
  | case2 w s written hleft answer₁ w₁ s₁ hturn =>
    cases h
    exact keeps_of_stop hturn
  | case3 w s written hleft n w₁ s₁ hturn ih =>
    obtain ⟨hkeeps, hblocked⟩ := ih h
    have hfirst := keeps_of_again hturn
    exact ⟨hfirst.trans hkeeps, fun m hm =>
      Nat.lt_of_lt_of_le (hblocked m hm) hfirst.accepting_suffix.length_le⟩

theorem willing_of_suffix {script script' : List Acceptance} (h : script' <:+ script)
    (hs : script.all Acceptance.isWilling) : script'.all Acceptance.isWilling :=
  List.all_eq_true.mpr fun a ha => List.all_eq_true.mp hs a (h.subset ha)

/-- A stream that goes along is sent all of a response: each call that stops short has used up
some of the script. -/
theorem Sends.exists_completes (h : Sends r w out) (hs : s.accepting.all Acceptance.isWilling) :
    ∃ w' s', Completes w s w' s' ∧ Keeps w w' s s' := by
  induction hlength : s.accepting.length using Nat.strong_induction_on
    generalizing w s out with
  | _ length ih =>
    obtain ⟨answer, w₁, s₁, taken, hflush, -, hflushed⟩ := h.sendLoop hs 0
    obtain ⟨hkeeps, hblocked⟩ := keeps_of_flush hflush
    rcases hflushed.answer_iff with ⟨rfl, -, -⟩ | ⟨rfl, -⟩
    · exact ⟨w₁, s₁, .done hflush, hkeeps⟩
    · have hless := hblocked _ rfl
      obtain ⟨w', s', hcompletes, hkeeps'⟩ := ih _ (hlength ▸ hless) hflushed.sends
        (willing_of_suffix hkeeps.accepting_suffix hs) rfl
      exact ⟨w', s', .blocked hflush rfl hcompletes, hkeeps.trans hkeeps'⟩

/-- A stream that goes along is sent all responses that fit. -/
theorem exists_delivers (hs : s.accepting.all Acceptance.isWilling)
    (hfits : ∀ r ∈ rs, r.head.length ≤ w.capacity) : ∃ w' s', Delivers w s rs w' s' := by
  induction rs generalizing w s with
  | nil => exact ⟨w, s, .nil w s⟩
  | cons r rs ih =>
    rw [List.forall_mem_cons] at hfits
    obtain ⟨hfirst, hrest⟩ := hfits
    have hcompose : w.compose r = (.ok (), (w.compose r).2) := by
      rw [compose, if_neg (Nat.not_lt.mpr hfirst)]
    have hcapacity : (w.compose r).2.capacity = w.capacity := by
      rw [compose, if_neg (Nat.not_lt.mpr hfirst)]
      rfl
    obtain ⟨w₁, s₁, hcompletes, hkeeps⟩ := (sends_of_compose hcompose).exists_completes hs
    have hsame : w₁.capacity = w.capacity := hkeeps.capacity_eq.trans hcapacity
    obtain ⟨w', s', hdelivers⟩ := ih (willing_of_suffix hkeeps.accepting_suffix hs)
      (w := w₁) (by rwa [hsame])
    exact ⟨w', s', .cons hcompose hcompletes rfl hdelivers⟩

/-! ## Responses that do not fit -/

/-- A refusal names the capacity, and comes exactly where it is exceeded. -/
theorem compose_eq_error_iff {e : HeadOverflow} :
    w.compose r = (.error e, w') ↔
      w.capacity < (Utf8.encode r.headText).length + r.body.inlineLength ∧
        e = ⟨w.capacity⟩ ∧ w' = ofCapacity w.capacity := by
  rw [compose, Response.length_head]
  split
  case isTrue hover =>
    simp only [Prod.mk.injEq, Except.error.injEq, hover, true_and, clear]
    exact and_congr eq_comm eq_comm
  case isFalse hfits =>
    exact iff_of_false (fun h => by cases h) fun h => hfits h.1

end Writer

/-! ## What the client gets -/

open Writer in
/-- Whatever the stream does, a client that reads what one writer has sent gets back the
responses that were put on their way and sent completely, in their order and with nothing left
over.  A response is refused exactly if its head and its body of text exceed the capacity, and a
writer that refuses one is idle and holds nothing, neither of this response nor of the one
before. -/
theorem receipts_of_delivers :
    (∀ w s rs w' s', Delivers w s rs w' s' →
      ∃ sent, s'.written = s.written ++ sent ∧
        Receipt.all? sent = some (rs.map Receipt.ofResponse)) ∧
    ∀ (w : Writer) (r : Response),
      ((∃ e w', w.compose r = (.error e, w')) ↔
        w.capacity < (Utf8.encode r.headText).length + r.body.inlineLength) ∧
      ∀ e w', w.compose r = (.error e, w') →
        e.capacity = w.capacity ∧ w' = ofCapacity w.capacity ∧
        w'.isIdle = true ∧ w'.head = [] ∧ w'.hasFile = false ∧
        ∀ s, w'.flush s = (.done 0, w', s) := by
  refine ⟨fun w s rs w' s' h => ⟨_, h.written_eq, Receipt.all?_flatMap_encode rs⟩,
    fun w r => ⟨⟨?_, ?_⟩, ?_⟩⟩
  · rintro ⟨e, w', h⟩
    exact (compose_eq_error_iff.mp h).1
  · intro hover
    exact ⟨_, _, compose_eq_error_iff.mpr ⟨hover, rfl, rfl⟩⟩
  · intro e w' h
    obtain ⟨-, rfl, rfl⟩ := compose_eq_error_iff.mp h
    exact ⟨rfl, rfl, rfl, rfl, rfl, fun s => flush_of_idle rfl s⟩

/-- A file that looks like the end of a head, sent in parts before a page, and a writer that
gives up what it was sending for a head that does not fit. -/
theorem receipts_of_delivers_of_headlike_file :
    let file : Bytes := Reply.headEnd ++ [7]
    let missing : Response := .error .notFound false
    let w : Writer := ⟨[1], 64, 0, some [2], 0, 2, 0⟩
    let s : Stream := ⟨[], [.upTo 3, .fault .wouldBlock, .upTo 61], []⟩
    (∃ w' s', (Writer.ofCapacity 128).Delivers s [⟨.ok, true, .file file⟩, missing] w' s' ∧
      Receipt.all? s'.written = some
        [⟨200, "OK", true, file⟩,
          ⟨404, "Not Found", false, Utf8.encode (Status.page .notFound)⟩]) ∧
    ∃ w', w.compose missing = (.error ⟨64⟩, w') ∧ w'.isIdle = true ∧
      w'.flush s = (.done 0, w', s) := by
  intro file missing w s
  have hfits : ∀ r ∈ [⟨.ok, true, .file file⟩, missing],
      r.head.length ≤ (Writer.ofCapacity 128).capacity := by decide +kernel
  obtain ⟨w₁, s₁, hdelivers⟩ := Writer.exists_delivers (s := s) (by decide) hfits
  obtain ⟨sent, hwritten, hall⟩ := receipts_of_delivers.1 _ _ _ _ _ hdelivers
  rw [List.nil_append] at hwritten
  obtain ⟨e, w', hrefused⟩ := (receipts_of_delivers.2 w missing).1.mpr (by decide +kernel)
  obtain ⟨hcapacity, -, hidle, -, -, hflush⟩ := (receipts_of_delivers.2 w missing).2 e w' hrefused
  refine ⟨⟨w₁, s₁, hdelivers, ?_⟩, w', ?_, hidle, hflush s⟩
  · rw [hwritten, hall]
    rfl
  · rw [hrefused, show e = ⟨64⟩ from congrArg HeadOverflow.mk hcapacity]

end Http
end SiteServer
