import SiteServer.Proofs.Http.Independence

/-!
# What a read takes in

A connection is read until its stream would block, has ended or has failed, or until its buffer
is full.  What its stream delivers before one of the first three is `Stream.ready`, and which of
them it is, `Stream.obstacle?`; nothing else of the stream decides what a read comes to.

* `Stream.Takes`: some of the octets that are ready were taken, and what is behind them was not
  touched.
* `Stream.read_turn`: one read takes octets or an interruption, or it meets the obstacle.
* `Connection.readLoop_cases`: all reads of a call take octets one after another, and then either
  there is no room left or the obstacle was met.
* `Connection.read_accounts`: where each octet is afterwards, and when there is which answer.
-/

namespace SiteServer

namespace Stream

variable {s s' s'' : Stream} {taken more : Bytes} {d : Delivery} {rest : List Delivery}

/-- The octets that come before a read blocks, ends or fails. -/
def ready (s : Stream) : Bytes :=
  (s.arriving.takeWhile Delivery.isPlain).flatMap Delivery.octets

/-- What comes behind those octets: nothing yet, or an end or a fault. -/
def obstacle? (s : Stream) : Option Delivery := (s.arriving.dropWhile Delivery.isPlain).head?

theorem ready_of_nil (h : s.arriving = []) : s.ready = [] := by
  rw [ready, h, List.takeWhile_nil, List.flatMap_nil]

theorem ready_of_obstacle (h : s.arriving = d :: rest) (hd : d.isPlain = false) :
    s.ready = [] := by
  rw [ready, h, List.takeWhile_cons_of_neg (by simp [hd]), List.flatMap_nil]

theorem ready_of_plain (h : s.arriving = d :: rest) (hd : d.isPlain = true) :
    s.ready = d.octets ++ ready { s with arriving := rest } := by
  rw [ready, h, List.takeWhile_cons_of_pos hd, List.flatMap_cons, ready]

theorem payload_eq_ready (s : Stream) :
    s.payload = s.ready ++ (s.arriving.dropWhile Delivery.isPlain).flatMap Delivery.octets := by
  rw [ready, ← List.flatMap_append, List.takeWhile_append_dropWhile, payload]

/-! ## Octets that were taken -/

/-- Octets that were ready were taken.  What comes behind those that are ready is as it was, and
so is what was written. -/
structure Takes (s : Stream) (taken : Bytes) (s' : Stream) : Prop where
  ready_eq : s.ready = taken ++ s'.ready
  beyond_eq : s'.arriving.dropWhile Delivery.isPlain = s.arriving.dropWhile Delivery.isPlain
  written_eq : s'.written = s.written
  accepting_eq : s'.accepting = s.accepting

theorem Takes.refl (s : Stream) : s.Takes [] s := ⟨rfl, rfl, rfl, rfl⟩

theorem Takes.trans (h : s.Takes taken s') (h' : s'.Takes more s'') :
    s.Takes (taken ++ more) s'' where
  ready_eq := by rw [h.ready_eq, h'.ready_eq, List.append_assoc]
  beyond_eq := h'.beyond_eq.trans h.beyond_eq
  written_eq := h'.written_eq.trans h.written_eq
  accepting_eq := h'.accepting_eq.trans h.accepting_eq

/-- Every octet is either taken or still to arrive. -/
theorem Takes.payload_eq (h : s.Takes taken s') : s.payload = taken ++ s'.payload := by
  rw [payload_eq_ready, payload_eq_ready, h.ready_eq, h.beyond_eq, List.append_assoc]

theorem Takes.obstacle_eq (h : s.Takes taken s') : s'.obstacle? = s.obstacle? := by
  rw [obstacle?, obstacle?, h.beyond_eq]

theorem takes_of_plain (h : s.arriving = d :: rest) (hd : d.isPlain = true) :
    s.Takes d.octets { s with arriving := rest } where
  ready_eq := ready_of_plain h hd
  beyond_eq := by rw [h, List.dropWhile_cons_of_pos hd]
  written_eq := rfl
  accepting_eq := rfl

/-- A delivery for which there is no room is taken in part. -/
theorem takes_of_part {bytes : Bytes} {room : Nat} (h : s.arriving = .data bytes :: rest)
    (hroom : room < bytes.length) :
    s.Takes (bytes.take room) { s with arriving := .data (bytes.drop room) :: rest } := by
  have hplain : ∀ {bytes : Bytes}, 0 < bytes.length → (Delivery.data bytes).isPlain = true := by
    intro bytes hbytes
    simpa [Delivery.isPlain] using List.length_pos_iff.mp hbytes
  have hwhole := hplain (Nat.lt_of_le_of_lt (Nat.zero_le _) hroom)
  have hrest : (Delivery.data (bytes.drop room)).isPlain = true :=
    hplain (by rw [List.length_drop]; omega)
  refine ⟨?_, ?_, rfl, rfl⟩
  · have hsplit : bytes = bytes.take room ++ bytes.drop room := (List.take_append_drop ..).symm
    rw [ready_of_plain h hwhole,
      ready_of_plain (s := { s with arriving := .data (bytes.drop room) :: rest }) rfl hrest,
      ← List.append_assoc]
    exact congrArg (· ++ _) hsplit
  · rw [h, List.dropWhile_cons_of_pos hwhole, List.dropWhile_cons_of_pos hrest]

/-! ## One read -/

/-- The stream behind what stops a read. -/
def past (s : Stream) : Stream :=
  { s with arriving := (s.arriving.dropWhile Delivery.isPlain).tail }

theorem isPlain_of_obstacle (h : s.obstacle? = some d) : d.isPlain = false := by
  have hnot := List.head?_dropWhile_not Delivery.isPlain s.arriving
  rw [obstacle?] at h
  rw [h] at hnot
  simpa using hnot

theorem meets_of_not_plain (h : s.arriving = d :: rest) (hd : d.isPlain = false) :
    s.ready = [] ∧ s.obstacle? = some d ∧ s.past = { s with arriving := rest } := by
  have hdrop : s.arriving.dropWhile Delivery.isPlain = d :: rest := by
    rw [h, List.dropWhile_cons_of_neg (by simp [hd])]
  refine ⟨ready_of_obstacle h hd, ?_, ?_⟩
  · rw [obstacle?, hdrop, List.head?_cons]
  · rw [past, hdrop, List.tail_cons]

theorem meets_of_nil (h : s.arriving = []) :
    s.ready = [] ∧ s.obstacle? = none ∧ s.past = s := by
  have hdrop : s.arriving.dropWhile Delivery.isPlain = [] := by rw [h, List.dropWhile_nil]
  refine ⟨ready_of_nil h, ?_, ?_⟩
  · rw [obstacle?, hdrop, List.head?_nil]
  · rw [past, hdrop, List.tail_nil, ← h]

theorem Takes.past_eq (h : s.Takes taken s') : s'.past = s.past := by
  rw [past, past, h.beyond_eq, h.written_eq, h.accepting_eq]

/-- What stops a read brings no octets. -/
theorem payload_eq_past (s : Stream) : s.payload = s.ready ++ s.past.payload := by
  rw [payload_eq_ready, payload, past]
  cases hdrop : s.arriving.dropWhile Delivery.isPlain with
  | nil => rfl
  | cons d rest =>
    have hd : d.isPlain = false := isPlain_of_obstacle (by rw [obstacle?, hdrop, List.head?_cons])
    have hnothing : d.octets = [] := by
      cases d with
      | data bytes => simpa [Delivery.isPlain, Delivery.octets] using hd
      | fault f => rfl
    rw [List.flatMap_cons, hnothing, List.nil_append, List.tail_cons]

/-- A read into some room takes octets or an interruption, or it meets what stops it. -/
theorem read_turn {room : Nat} {result : Except StreamFault Bytes}
    (h : s.read room = (result, s')) (hroom : 0 < room) :
    (∃ taken, s.Takes taken s' ∧ taken.length ≤ room ∧
        (result = .ok taken ∧ taken ≠ [] ∨ result = .error .interrupted ∧ taken = [])) ∨
      (s.ready = [] ∧ s' = s.past ∧
        (s.obstacle? = none ∧ result = .error .wouldBlock ∨
          (s.obstacle? = some (.data []) ∧ result = .ok []) ∨
          ∃ f, f ≠ .interrupted ∧ s.obstacle? = some (.fault f) ∧ result = .error f)) := by
  unfold read at h
  split at h
  case h_1 harriving =>
    cases h
    obtain ⟨hready, hobstacle, hpast⟩ := meets_of_nil harriving
    exact Or.inr ⟨hready, hpast.symm, Or.inl ⟨hobstacle, rfl⟩⟩
  case h_2 f rest harriving =>
    cases h
    by_cases hf : f = .interrupted
    · subst hf
      exact Or.inl ⟨[], takes_of_plain harriving rfl, Nat.zero_le _, Or.inr ⟨rfl, rfl⟩⟩
    · obtain ⟨hready, hobstacle, hpast⟩ :=
        meets_of_not_plain harriving (by simpa [Delivery.isPlain] using hf)
      exact Or.inr ⟨hready, hpast.symm, Or.inr (Or.inr ⟨f, hf, hobstacle, rfl⟩)⟩
  case h_3 bytes rest harriving =>
    cases bytes with
    | nil =>
      have hnone : ([] : Bytes).length ≤ room := Nat.zero_le _
      rw [if_pos hnone] at h
      cases h
      obtain ⟨hready, hobstacle, hpast⟩ := meets_of_not_plain harriving rfl
      exact Or.inr ⟨hready, hpast.symm, Or.inr (Or.inl ⟨hobstacle, rfl⟩)⟩
    | cons x xs =>
      split at h
      case isTrue hfits =>
        cases h
        exact Or.inl ⟨x :: xs, takes_of_plain harriving rfl, hfits,
          Or.inl ⟨rfl, List.cons_ne_nil _ _⟩⟩
      case isFalse hover =>
        cases h
        have hlength := Nat.lt_of_not_le hover
        refine Or.inl ⟨_, takes_of_part harriving hlength, List.length_take_le .., Or.inl ⟨rfl, ?_⟩⟩
        rw [Ne, List.take_eq_nil_iff]
        simp [Nat.ne_of_gt hroom]

end Stream

namespace Http
namespace Connection

open ReceiveBuffer

variable {b b' : ReceiveBuffer} {s s' : Stream}

/-! ## All reads of a call -/

/-- What is reported of the obstacle that ended a call of `total` octets. -/
def reported (total : Nat) : Option Delivery → Except StreamFault Intake
  | none | some (.fault .wouldBlock) => .ok (.data total)
  | some (.fault f) => .error f
  | some (.data _) => .ok .closed

/-- A buffer that is filled once is full already, takes what the stream has ready, or meets what
stops the call. -/
theorem fill_turn {result : Except StreamFault Fill} (hfill : b.fill s = (result, b', s')) :
    (b.remaining = 0 ∧ result = .ok .full ∧ b' = b ∧ s' = s) ∨
      (∃ taken, s.Takes taken s' ∧ taken.length ≤ b.remaining ∧ b' = b.append taken ∧
        ∀ total, readTurn total result = .again (total + taken.length)) ∨
      (0 < b.remaining ∧ s.ready = [] ∧ b' = b ∧ s' = s.past ∧
        ∀ total, readTurn total result = .stop (reported total s.obstacle?)) := by
  rcases fill_cases hfill with hfull | ⟨hroom, ⟨f, hread, rfl, rfl⟩ | ⟨hread, rfl, rfl⟩ |
    ⟨x, xs, hread, rfl, rfl⟩⟩
  · exact Or.inl hfull
  all_goals right
  -- a fault: the read was interrupted, or it met the fault
  · rcases Stream.read_turn hread hroom with ⟨taken, htakes, hlength, ⟨hresult, -⟩ |
      ⟨hresult, rfl⟩⟩ | ⟨hready, hpast, ⟨hobstacle, hresult⟩ | ⟨-, hresult⟩ |
      ⟨g, hg, hobstacle, hresult⟩⟩ <;> cases hresult
    · exact Or.inl ⟨[], htakes, hlength, (append_nil _).symm, fun _ => rfl⟩
    · exact Or.inr ⟨hroom, hready, rfl, hpast, fun _ => by rw [hobstacle]; rfl⟩
    · refine Or.inr ⟨hroom, hready, rfl, hpast, fun _ => ?_⟩
      rw [hobstacle]
      cases f with
      | interrupted => exact absurd rfl hg
      | wouldBlock => rfl
      | failed reason => rfl
  -- the end
  · rcases Stream.read_turn hread hroom with ⟨taken, -, -, ⟨hresult, hne⟩ | ⟨hresult, -⟩⟩ |
      ⟨hready, hpast, ⟨-, hresult⟩ | ⟨hobstacle, -⟩ | ⟨_, -, -, hresult⟩⟩
    · cases hresult
      exact absurd rfl hne
    · cases hresult
    · cases hresult
    · exact Or.inr ⟨hroom, hready, rfl, hpast, fun _ => by rw [hobstacle]; rfl⟩
    · cases hresult
  -- octets
  · rcases Stream.read_turn hread hroom with ⟨taken, htakes, hlength, ⟨hresult, -⟩ |
      ⟨hresult, -⟩⟩ | ⟨-, -, ⟨-, hresult⟩ | ⟨-, hresult⟩ | ⟨_, -, -, hresult⟩⟩ <;> cases hresult
    exact Or.inl ⟨x :: xs, htakes, hlength, rfl, fun _ => rfl⟩

/-- The reads of a call take octets one after another, until there is no room left or they meet
what stops them. -/
theorem readLoop_cases (b : ReceiveBuffer) (s : Stream) (total : Nat) :
    ∃ taken s', s.Takes taken s' ∧
      ((taken.length = b.remaining ∧
          readLoop b s total =
            (.ok (if 0 < total + taken.length then .data (total + taken.length) else .full),
              b.append taken, s')) ∨
        (taken.length < b.remaining ∧ s'.ready = [] ∧
          readLoop b s total =
            (reported (total + taken.length) s'.obstacle?, b.append taken, s'.past))) := by
  induction b, s, total using readLoop.induct with
  | case1 b s total result b' s' hfill answer hturn =>
    refine ⟨[], s, .refl s, ?_⟩
    rw [readLoop_of_stop hfill hturn, append_nil]
    rcases fill_turn hfill with ⟨hfull, rfl, rfl, rfl⟩ | ⟨taken, -, -, -, hagain⟩ |
      ⟨hroom, hready, rfl, rfl, hstop⟩
    · cases hturn
      exact Or.inl ⟨hfull.symm, rfl⟩
    · rw [hagain] at hturn
      cases hturn
    · rw [hstop] at hturn
      cases hturn
      exact Or.inr ⟨hroom, hready, rfl⟩
  | case2 b s total result b' s' hfill total' hturn ih =>
    rcases fill_turn hfill with ⟨-, rfl, -⟩ | ⟨taken, htakes, hlength, rfl, hagain⟩ |
      ⟨-, -, -, -, hstop⟩
    · cases hturn
    · rw [hagain] at hturn
      cases hturn
      obtain ⟨more, s₁, hmore, hcases⟩ := ih
      refine ⟨taken ++ more, s₁, htakes.trans hmore, ?_⟩
      rw [readLoop_of_again hfill (hagain total)]
      have hroom : (b.append taken).remaining = b.remaining - taken.length :=
        remaining_of_data_eq rfl rfl
      rw [hroom, append_append] at hcases
      rw [List.length_append, ← Nat.add_assoc]
      rcases hcases with ⟨hfull, heq⟩ | ⟨hfree, hready, heq⟩
      · exact Or.inl ⟨by omega, heq⟩
      · exact Or.inr ⟨by omega, hready, heq⟩
    · rw [hstop] at hturn
      cases hturn

/-! ## What is reported -/

/-- The stream has nothing more for now: nothing is to arrive, or it says that it would block. -/
def Blocks (o : Option Delivery) : Prop := o = none ∨ o = some (.fault .wouldBlock)

section Reported

variable {total : Nat} {o : Option Delivery}

theorem reported_eq_data_iff {n : Nat} :
    reported total o = .ok (.data n) ↔ n = total ∧ Blocks o := by
  rcases o with _ | bytes | _ | _ | reason <;> simp [reported, Blocks, eq_comm]

theorem reported_ne_full : reported total o ≠ .ok .full := by
  rcases o with _ | bytes | _ | _ | reason <;> simp [reported]

theorem reported_eq_closed_iff (ho : ∀ d, o = some d → d.isPlain = false) :
    reported total o = .ok .closed ↔ o = some (.data []) := by
  rcases o with _ | bytes | _ | _ | reason
  case some.data =>
    have hbytes : bytes = [] := by simpa [Delivery.isPlain] using ho _ rfl
    simp [reported, hbytes]
  all_goals simp [reported]

theorem reported_eq_error_iff (ho : ∀ d, o = some d → d.isPlain = false) {f : StreamFault} :
    reported total o = .error f ↔ ∃ reason, f = .failed reason ∧ o = some (.fault f) := by
  rcases o with _ | bytes | _ | _ | reason
  case some.fault.interrupted => cases ho _ rfl
  case some.fault.failed =>
    constructor
    · rintro ⟨rfl⟩
      exact ⟨reason, rfl, rfl⟩
    · rintro ⟨_, -, ⟨rfl⟩⟩
      rfl
  all_goals simp +contextual [reported]

end Reported

/-! ## A call -/

theorem read_of_full (c : Connection) (hfull : c.buffer.isFull = true) :
    c.read = (.ok .full, c) := by
  have hfill : c.buffer.fill c.stream = (.ok .full, c.buffer, c.stream) := by
    rw [fill, if_pos hfull]
  rw [read, readLoop_of_stop hfill rfl]
  rfl

/-- A call fills the buffer from what is ready, or takes all of it and meets what is behind. -/
theorem read_fills_or_meets (c : Connection) :
    (c.buffer.remaining ≤ c.stream.ready.length ∧
        ∃ stream, c.stream.Takes (c.stream.ready.take c.buffer.remaining) stream ∧
          c.read =
            (.ok (if 0 < c.buffer.remaining then .data c.buffer.remaining else .full),
              { c with
                buffer := c.buffer.append (c.stream.ready.take c.buffer.remaining), stream })) ∨
      (c.stream.ready.length < c.buffer.remaining ∧
        c.read =
          (reported c.stream.ready.length c.stream.obstacle?,
            { c with buffer := c.buffer.append c.stream.ready, stream := c.stream.past })) := by
  obtain ⟨taken, s, htakes, hcases⟩ := readLoop_cases c.buffer c.stream 0
  have hlength := congrArg List.length htakes.ready_eq
  rw [List.length_append] at hlength
  rw [Nat.zero_add] at hcases
  rcases hcases with ⟨hfull, hloop⟩ | ⟨hfree, hready, hloop⟩
  · have htaken : c.stream.ready.take c.buffer.remaining = taken := by
      rw [htakes.ready_eq, ← hfull, List.take_left]
    refine Or.inl ⟨by omega, s, htaken.symm ▸ htakes, ?_⟩
    rw [read, hloop, htaken, hfull]
  · have htaken : c.stream.ready = taken := by
      rw [htakes.ready_eq, hready, List.append_nil]
    refine Or.inr ⟨htaken ▸ hfree, ?_⟩
    rw [read, hloop, htaken, htakes.obstacle_eq, htakes.past_eq]

/-- **A read accounts for every octet.**  It takes from the stream what is ready, as far as there
is room, and appends it to the buffer; all else of the stream is still to arrive, and nothing else
of the connection changes.  The answer tells the growth of the buffer if the stream would block
or the buffer has become full, and otherwise what was met; a buffer that was full takes nothing. -/
theorem read_accounts (c : Connection) (hc : c.buffer.Sound) :
    ∃ taken stream,
      c.read.2 = { c with buffer := { c.buffer with data := c.buffer.data ++ taken }, stream } ∧
      taken = c.stream.ready.take c.buffer.remaining ∧
      c.stream.payload = taken ++ stream.payload ∧
      stream.written = c.stream.written ∧ stream.accepting = c.stream.accepting ∧
      c.read.2.buffer.Sound ∧
      (if c.stream.ready.length < c.buffer.remaining then
        stream.arriving = (c.stream.arriving.dropWhile Delivery.isPlain).tail
      else stream.obstacle? = c.stream.obstacle?) ∧
      (∀ n, c.read.1 = .ok (.data n) ↔ n = taken.length ∧
        (c.stream.ready.length < c.buffer.remaining ∧ Blocks c.stream.obstacle? ∨
          0 < n ∧ c.read.2.buffer.isFull = true)) ∧
      (c.read.1 = .ok .full ↔ c.buffer.isFull = true) ∧
      (c.buffer.isFull = true → c.read.2 = c) ∧
      (c.read.1 = .ok .closed ↔
        c.stream.ready.length < c.buffer.remaining ∧ c.stream.obstacle? = some (.data [])) ∧
      ∀ f, c.read.1 = .error f ↔
        c.stream.ready.length < c.buffer.remaining ∧
          ∃ reason, f = .failed reason ∧ c.stream.obstacle? = some (.fault f) := by
  have hmet : ∀ d, c.stream.obstacle? = some d → d.isPlain = false :=
    fun d => Stream.isPlain_of_obstacle
  have hempty : c.buffer.isFull = true ↔ c.buffer.remaining = 0 := by simp [isFull]
  have hroom : ∀ taken : Bytes, (c.buffer.append taken).isFull = true ↔
      c.buffer.remaining ≤ taken.length := fun taken => by
    have hless : (c.buffer.append taken).remaining = c.buffer.remaining - taken.length :=
      remaining_of_data_eq rfl rfl
    simp [isFull, hless, Nat.sub_eq_zero_iff_le]
  rcases c.read_fills_or_meets with ⟨henough, stream, htakes, hread⟩ | ⟨hfree, hread⟩
  -- the buffer is filled
  · have hlength : (c.stream.ready.take c.buffer.remaining).length = c.buffer.remaining :=
      List.length_take_of_le henough
    have hover : ¬c.stream.ready.length < c.buffer.remaining := Nat.not_lt.mpr henough
    refine ⟨_, stream, by rw [hread]; rfl, rfl, htakes.payload_eq, htakes.written_eq,
      htakes.accepting_eq, by rw [hread]; exact hc.append (Nat.le_of_eq hlength), ?_, ?_, ?_, ?_,
      ?_, ?_⟩
    · rw [if_neg hover]
      exact htakes.obstacle_eq
    · intro n
      simp only [hread, hlength, hroom, hover, Nat.le_refl, false_and, false_or, and_true]
      split <;> simp <;> omega
    · rw [hread, hempty]
      split <;> simp <;> omega
    · intro hfull
      rw [c.read_of_full hfull]
    · simp only [hread, hover, false_and, iff_false]
      split <;> simp
    · intro f
      simp [hread, hover]
  -- all that is ready finds room, and what is behind it is met
  · have hpast := c.stream.payload_eq_past
    refine ⟨c.stream.ready, c.stream.past, by rw [hread]; rfl,
      (List.take_of_length_le (Nat.le_of_lt hfree)).symm, hpast, rfl, rfl,
      by rw [hread]; exact hc.append (Nat.le_of_lt hfree), ?_, ?_, ?_, ?_, ?_, ?_⟩
    · rw [if_pos hfree]
      rfl
    · intro n
      simp only [hread, hroom, reported_eq_data_iff, hfree, true_and, Nat.not_le.mpr hfree,
        and_false, or_false]
    · rw [hread, hempty]
      exact iff_of_false reported_ne_full (by omega)
    · intro hfull
      rw [hempty] at hfull
      omega
    · simp only [hread, hfree, true_and, reported_eq_closed_iff hmet]
    · intro f
      simp only [hread, hfree, true_and, reported_eq_error_iff hmet]

/-- A buffer of four octets holds one.  Two more come, with a signal between them, and then a fault:
the read fails, the two stay, and the end behind the fault has not been met. -/
theorem read_accounts_of_fault :
    let stream : Stream :=
      { arriving :=
          [.data [2], .fault .interrupted, .data [3], .fault (.failed "reset"), .data []] }
    let c : Connection :=
      { accepted 0 ⟨.v4 [127, 0, 0, 1], 80, 0⟩ stream 4 0 with buffer := ⟨[1], 4, 0, 0⟩ }
    c.buffer.Sound ∧ c.read.1 = .error (.failed "reset") ∧ c.read.2.buffer.data = [1, 2, 3] ∧
      c.read.2.stream.arriving = [.data []] := by
  intro stream c
  have hsound : c.buffer.Sound := ⟨by decide, by decide, by decide⟩
  have hfree : c.stream.ready.length < c.buffer.remaining := by decide
  obtain ⟨taken, stream', hread, htaken, -, -, -, -, hleft, -, -, -, -, herror⟩ :=
    read_accounts c hsound
  have hoctets : c.stream.ready.take c.buffer.remaining = [2, 3] := by decide
  rw [if_pos hfree] at hleft
  refine ⟨hsound, (herror _).mpr ⟨hfree, "reset", rfl, by decide⟩, ?_, ?_⟩
  · rw [hread, htaken, hoctets]
    rfl
  · rw [hread]
    exact hleft

end Connection
end Http
end SiteServer
