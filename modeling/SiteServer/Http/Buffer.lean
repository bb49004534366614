import SiteServer.Stream

/-!
# The receive buffer

What a connection has received and not yet finished with, in at most `capacity`
octets, with the two cursors of the line scanner: how far it has looked
(`checked`) and where the line it is in begins (`lineBegin`).  The cursors move
only forward until the buffer is cleared.
-/

namespace SiteServer
namespace Http

/-- The capacity of a receive buffer unless it is configured. -/
def defaultReadCapacity : Nat := 2048

/-- What became of one attempt to fill a buffer. -/
inductive Fill where
  /-- This many octets were added. -/
  | read (count : Nat)
  /-- The other side has closed its sending half. -/
  | closed
  /-- There is no room left. -/
  | full
  deriving DecidableEq, Repr

/-- A bounded receive buffer. -/
structure ReceiveBuffer where
  data : Bytes
  capacity : Nat
  checked : Nat
  lineBegin : Nat
  deriving DecidableEq, Repr

namespace ReceiveBuffer

/-- An empty buffer. -/
def ofCapacity (capacity : Nat) : ReceiveBuffer := ⟨[], capacity, 0, 0⟩

/-- How many octets have been received. -/
def size (b : ReceiveBuffer) : Nat := b.data.length

/-- How many octets there is room for. -/
def remaining (b : ReceiveBuffer) : Nat := b.capacity - b.size

/-- Whether there is no room left. -/
def isFull (b : ReceiveBuffer) : Bool := b.remaining = 0

/-- The octets from `start` up to, and without, `stop`. -/
def slice (b : ReceiveBuffer) (start stop : Nat) : Bytes := (b.data.drop start).take (stop - start)

/-- Adds as many of the octets as there is room for. -/
def extend (b : ReceiveBuffer) (bytes : Bytes) : ReceiveBuffer :=
  { b with data := b.data ++ bytes.take b.remaining }

/-- How many of the octets `extend` adds. -/
def taken (b : ReceiveBuffer) (bytes : Bytes) : Nat := min bytes.length b.remaining

/-- Drops everything and rewinds the cursors. -/
def clear (b : ReceiveBuffer) : ReceiveBuffer := ofCapacity b.capacity

/-- The octets, with the free room behind them made ready to be written to: zeros up to the
capacity. -/
def padded (b : ReceiveBuffer) : Bytes := b.data ++ List.replicate b.remaining 0

/-- Writes octets over those that stand from `start` on. -/
def overwrite (data : Bytes) (start : Nat) (bytes : Bytes) : Bytes :=
  data.take start ++ bytes ++ data.drop (start + bytes.length)

/-- Reads once from the stream into the free room, and cuts off what of it was not written
to. -/
def fill (b : ReceiveBuffer) (s : Stream) : Except StreamFault Fill × ReceiveBuffer × Stream :=
  if b.isFull then (.ok .full, b, s)
  else
    match s.read b.remaining with
    | (.error f, s) => (.error f, { b with data := b.padded.take b.size }, s)
    | (.ok [], s) => (.ok .closed, { b with data := (overwrite b.padded b.size []).take b.size }, s)
    | (.ok (x :: xs), s) =>
      let count := xs.length + 1
      (.ok (.read count),
        { b with data := (overwrite b.padded b.size (x :: xs)).take (b.size + count) }, s)

/-- What was written into the room is left behind the octets that were there. -/
theorem take_overwrite_padded (b : ReceiveBuffer) (bytes : Bytes) :
    (overwrite b.padded b.size bytes).take (b.size + bytes.length) = b.data ++ bytes := by
  have hkept : b.padded.take b.size = b.data := List.take_left
  have hlength : b.size + bytes.length = (b.data ++ bytes).length := List.length_append.symm
  rw [overwrite, hkept, hlength, List.take_left]

/-- Filling adds what was read, and nothing else: no zero is left of the room. -/
theorem fill_cases {b b' : ReceiveBuffer} {s s' : Stream} {result : Except StreamFault Fill}
    (h : b.fill s = (result, b', s')) :
    (b.remaining = 0 ∧ result = .ok .full ∧ b' = b ∧ s' = s) ∨
      (0 < b.remaining ∧
        ((∃ f, s.read b.remaining = (.error f, s') ∧ result = .error f ∧ b' = b) ∨
          (s.read b.remaining = (.ok [], s') ∧ result = .ok .closed ∧ b' = b) ∨
          ∃ x xs, s.read b.remaining = (.ok (x :: xs), s') ∧
            result = .ok (.read (xs.length + 1)) ∧
            b' = { b with data := b.data ++ x :: xs })) := by
  have hkept : b.padded.take b.size = b.data := List.take_left
  have hnothing : (overwrite b.padded b.size []).take b.size = b.data :=
    (take_overwrite_padded b []).trans (List.append_nil _)
  unfold fill at h
  split at h
  case isTrue hfull =>
    cases h
    exact Or.inl ⟨by simpa [isFull] using hfull, rfl, rfl, rfl⟩
  case isFalse hfree =>
    refine Or.inr ⟨Nat.pos_of_ne_zero (by simpa [isFull] using hfree), ?_⟩
    split at h
    case h_1 f _ hread =>
      cases h
      exact Or.inl ⟨f, hread, rfl, by rw [hkept]⟩
    case h_2 hread =>
      cases h
      exact Or.inr (Or.inl ⟨hread, rfl, by rw [hnothing]⟩)
    case h_3 x xs _ hread =>
      cases h
      exact Or.inr (Or.inr ⟨x, xs, hread, rfl, by
        rw [← List.length_cons, take_overwrite_padded]⟩)

/-! ## The invariant of the cursors -/

/-- The cursors are in order and the buffer is within its capacity. -/
structure Sound (b : ReceiveBuffer) : Prop where
  lineBegin_le : b.lineBegin ≤ b.checked
  checked_le : b.checked ≤ b.size
  size_le : b.size ≤ b.capacity

theorem sound_ofCapacity (capacity : Nat) : (ofCapacity capacity).Sound :=
  ⟨Nat.le_refl _, Nat.le_refl _, Nat.zero_le _⟩

@[simp] theorem size_extend (b : ReceiveBuffer) (bytes : Bytes) :
    (b.extend bytes).size = b.size + b.taken bytes := by
  simp [extend, size, taken, Nat.min_comm]

theorem Sound.extend {b : ReceiveBuffer} (h : b.Sound) (bytes : Bytes) :
    (b.extend bytes).Sound where
  lineBegin_le := h.lineBegin_le
  checked_le := by
    have := h.checked_le
    rw [size_extend]
    exact Nat.le_trans this (Nat.le_add_right _ _)
  size_le := by
    have := h.size_le
    rw [size_extend, taken, remaining]
    show _ ≤ b.capacity
    omega

end ReceiveBuffer
end Http
end SiteServer
