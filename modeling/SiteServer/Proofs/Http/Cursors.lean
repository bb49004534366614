import SiteServer.Http.Parser

/-!
# The cursors of the receive buffer

The scanner and the parser look at what the receive buffer holds and never change
it.  Whatever they do, they only move the two cursors forward, and they leave them
in order: a line begins where the scanner has been, and the scanner has been no
further than what was received.

* `Onward b b'`: the same octets and the same capacity, cursors not behind.
* `nextLine_onward`, `Sound.nextLine`: the scanner moves on only, and keeps the cursors in
  order.
* `advance_onward`, `parse_onward`: so do a turn of the parser and a whole call.
-/

namespace SiteServer
namespace Http

namespace LineEnd

/-- Where a scan ended, as a distance. -/
def distance : LineEnd → Nat
  | found n | missing n | broken n => n

@[simp] theorem distance_next (e : LineEnd) : e.next.distance = e.distance + 1 := by
  cases e <;> rfl

/-- A scan ends within the octets. -/
theorem distance_scan_le (bytes : Bytes) : (scan bytes).distance ≤ bytes.length := by
  induction bytes with
  | nil => exact Nat.le_refl 0
  | cons c rest ih =>
    unfold scan
    split
    · split
      · exact Nat.zero_le _
      · split <;> exact Nat.zero_le _
    · split
      · exact Nat.zero_le _
      · rw [distance_next, List.length_cons]
        omega

end LineEnd

namespace ReceiveBuffer

variable {b b' b'' : ReceiveBuffer}

/-! ## Moving on -/

/-- `b'` holds what `b` holds, and its cursors are not behind those of `b`. -/
structure Onward (b b' : ReceiveBuffer) : Prop where
  data_eq : b'.data = b.data
  capacity_eq : b'.capacity = b.capacity
  checked_le : b.checked ≤ b'.checked
  lineBegin_le : b.lineBegin ≤ b'.lineBegin

theorem Onward.refl (b : ReceiveBuffer) : Onward b b :=
  ⟨rfl, rfl, Nat.le_refl _, Nat.le_refl _⟩

theorem Onward.trans (h : Onward b b') (h' : Onward b' b'') : Onward b b'' where
  data_eq := h'.data_eq.trans h.data_eq
  capacity_eq := h'.capacity_eq.trans h.capacity_eq
  checked_le := Nat.le_trans h.checked_le h'.checked_le
  lineBegin_le := Nat.le_trans h.lineBegin_le h'.lineBegin_le

theorem Onward.size_eq (h : Onward b b') : b'.size = b.size := by
  rw [size, size, h.data_eq]

/-! ## The scanner -/

theorem nextLine_onward (b : ReceiveBuffer) : Onward b b.nextLine.2 := by
  unfold nextLine
  split <;> exact ⟨rfl, rfl, by simp only; omega, Nat.le_refl _⟩

theorem Sound.nextLine (h : b.Sound) : b.nextLine.2.Sound := by
  have hfit := h.checked_le
  have hbound := LineEnd.distance_scan_le (b.data.drop b.checked)
  rw [List.length_drop] at hbound
  have hon := nextLine_onward b
  refine ⟨Nat.le_trans ?_ hon.checked_le, ?_, ?_⟩
  · have hbegin : b.nextLine.2.lineBegin = b.lineBegin := by
      unfold ReceiveBuffer.nextLine
      split <;> rfl
    rw [hbegin]
    exact h.lineBegin_le
  · rw [hon.size_eq]
    unfold ReceiveBuffer.nextLine
    simp only [size] at hfit ⊢
    split
    case h_1 n hn =>
      have := LineEnd.scan_found_le hn
      rw [List.length_drop] at this
      simp only
      omega
    case h_2 n hn =>
      rw [hn, LineEnd.distance] at hbound
      simp only
      omega
    case h_3 n hn =>
      rw [hn, LineEnd.distance] at hbound
      simp only
      omega
  · rw [hon.size_eq, hon.capacity_eq]
    exact h.size_le

theorem Sound.beginLine (h : b.Sound) : b.beginLine.Sound :=
  ⟨Nat.le_refl _, h.checked_le, h.size_le⟩

theorem beginLine_onward (h : b.lineBegin ≤ b.checked) : Onward b b.beginLine :=
  ⟨rfl, rfl, Nat.le_refl _, h⟩

end ReceiveBuffer

namespace Parser

open ReceiveBuffer

variable {d : Dialect} {p p' : Parser} {b b' : ReceiveBuffer} {turn : Turn}

/-! ## Turns and calls -/

/-- A call is over when a turn says so. -/
theorem parse_of_stop {answer : Except Refusal Progress}
    (h : advance d p b = (.stop answer, p', b')) : parse d p b = (answer, p', b') := by
  rw [parse]
  split
  · rename_i h'
    rw [h] at h'
    cases h'
    rfl
  · rename_i h'
    rw [h] at h'
    cases h'

/-- A call goes on with the next turn if no turn has said that it is over. -/
theorem parse_of_again (h : advance d p b = (.again, p', b')) :
    parse d p b = parse d p' b' := by
  rw [parse]
  split
  · rename_i h'
    rw [h] at h'
    cases h'
  · rename_i h'
    rw [h] at h'
    cases h'
    rfl

/-- A call that finishes a body moves the cursors to its end, within what was
received. -/
theorem bodyTurn_onward (hs : b.Sound) (h : bodyTurn p b = (turn, p', b')) :
    Onward b b' ∧ b'.Sound := by
  unfold bodyTurn at h
  simp only at h
  split at h
  case isTrue =>
    cases h
    exact ⟨Onward.refl b, hs⟩
  case isFalse hfit =>
    cases h
    have hbegin := hs.lineBegin_le
    refine ⟨⟨rfl, rfl, by simp only; omega, by simp only; omega⟩, Nat.le_refl _, ?_, hs.size_le⟩
    simp only [size] at hfit ⊢
    omega

/-- A turn moves the cursors forward and keeps them in order. -/
theorem advance_onward (hs : b.Sound) (h : advance d p b = (turn, p', b')) :
    Onward b b' ∧ b'.Sound := by
  unfold advance at h
  split at h
  case isTrue => exact bodyTurn_onward hs h
  case isFalse =>
    have hon := nextLine_onward b
    have hsound := hs.nextLine
    split at h
    case h_1 b1 hline =>
      cases h
      rw [hline] at hon hsound
      exact ⟨hon, hsound⟩
    case h_2 b1 hline =>
      cases h
      rw [hline] at hon hsound
      exact ⟨hon, hsound⟩
    case h_3 start stop b1 hline =>
      cases h
      rw [hline] at hon hsound
      exact ⟨hon.trans (beginLine_onward hsound.lineBegin_le), hsound.beginLine⟩

/-- A call moves the cursors forward and keeps them in order. -/
theorem parse_onward (hs : b.Sound) : Onward b (parse d p b).2.2 ∧ (parse d p b).2.2.Sound := by
  fun_induction parse d p b with
  | case1 p b answer p' b' h => exact advance_onward hs h
  | case2 p b p' b' h ih =>
    obtain ⟨hon, hsound⟩ := advance_onward hs h
    obtain ⟨hon', hsound'⟩ := ih hsound
    exact ⟨hon.trans hon', hsound'⟩

end Parser
end Http
end SiteServer
