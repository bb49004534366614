import SiteServer.Bytes

/-!
# Byte streams that do not block

A socket in non-blocking mode, seen from the server.  What a stream will do is
written down in advance: what arrives, one delivery after another, and how much
the other side accepts at each write.  A stream with nothing left to deliver
would block; a stream with nothing said about its next write accepts all of it.

A delivery of no octets is the end of the stream.  A delivery larger than the
room offered is handed out over several reads.
-/

namespace SiteServer

/-- Why a read or a write did not happen. -/
inductive StreamFault where
  /-- Nothing can be done now; ask again when the stream is ready. -/
  | wouldBlock
  /-- A signal came in between; ask again at once. -/
  | interrupted
  /-- The stream failed for good, for the reason named. -/
  | failed (reason : String)
  deriving DecidableEq, Repr

/-- What the next read meets. -/
inductive Delivery where
  | data (bytes : Bytes)
  | fault (f : StreamFault)
  deriving DecidableEq, Repr

/-- What the next write meets. -/
inductive Acceptance where
  | upTo (count : Nat)
  | fault (f : StreamFault)
  deriving DecidableEq, Repr

/-- A stream: what is still to arrive, how the next writes will go, and every
octet accepted so far. -/
structure Stream where
  arriving : List Delivery := []
  accepting : List Acceptance := []
  written : Bytes := []
  deriving DecidableEq, Repr

namespace Stream

/-- One read into `room` octets of space. -/
def read (s : Stream) (room : Nat) : Except StreamFault Bytes × Stream :=
  match s.arriving with
  | [] => (.error .wouldBlock, s)
  | .fault f :: rest => (.error f, { s with arriving := rest })
  | .data bytes :: rest =>
    if bytes.length ≤ room then (.ok bytes, { s with arriving := rest })
    else (.ok (bytes.take room), { s with arriving := .data (bytes.drop room) :: rest })

/-- One write of `offer`.  The answer is how many of its octets were accepted. -/
def write (s : Stream) (offer : Bytes) : Except StreamFault Nat × Stream :=
  match s.accepting with
  | [] => (.ok offer.length, { s with written := s.written ++ offer })
  | .fault f :: rest => (.error f, { s with accepting := rest })
  | .upTo n :: rest =>
    (.ok (min n offer.length),
      { s with accepting := rest, written := s.written ++ offer.take n })

/-- Adds deliveries behind those still to come. -/
def deliver (s : Stream) (more : List Delivery) : Stream :=
  { s with arriving := s.arriving ++ more }

/-- Says how further writes will go. -/
def expect (s : Stream) (more : List Acceptance) : Stream :=
  { s with accepting := s.accepting ++ more }

/-! ## What a read hands out -/

theorem length_le_of_read {s s' : Stream} {room : Nat} {bytes : Bytes}
    (h : s.read room = (.ok bytes, s')) : bytes.length ≤ room := by
  unfold read at h
  split at h
  · cases h
  · cases h
  · split at h
    case isTrue hl => cases h; exact hl
    case isFalse => cases h; exact List.length_take_le _ _

/-- A read that fails for another reason than an empty stream uses up a
delivery. -/
theorem arriving_of_read_error {s s' : Stream} {room : Nat} {f : StreamFault}
    (h : s.read room = (.error f, s')) :
    (f = .wouldBlock ∧ s.arriving = [] ∧ s' = s) ∨
      s.arriving = .fault f :: s'.arriving := by
  unfold read at h
  split at h
  case h_1 he => cases h; exact Or.inl ⟨rfl, he, rfl⟩
  case h_2 g rest he => cases h; exact Or.inr he
  case h_3 => split at h <;> cases h

theorem length_arriving_of_read_le {s s' : Stream} {room : Nat} {bytes : Bytes}
    (h : s.read room = (.ok bytes, s')) : s'.arriving.length ≤ s.arriving.length := by
  unfold read at h
  split at h
  case h_1 => cases h
  case h_2 => cases h
  case h_3 data rest harriving =>
    rw [harriving, List.length_cons]
    split at h
    case isTrue => cases h; exact Nat.le_succ _
    case isFalse => cases h; exact Nat.le_refl _

end Stream
end SiteServer
