import SiteServer.Http.Response

/-!
# Sending responses

A response is sent in two segments, the head and the file.  A write takes from
both at once and may stop anywhere; the writer keeps one cursor in each segment
and two counters over both, and goes on from there at the next call.

When a write fails for good the file is let go, while cursors and counters stay.
A later call that would have to look into the part of a file that is no longer
there has nothing to look into: `FlushOutcome.outOfRange`.

Main statement: `sendLoop` ends, because every turn uses up either a word on the
next write or some of what is left to send.
-/

namespace SiteServer
namespace Http

/-- The capacity for a head unless it is configured. -/
def defaultWriteCapacity : Nat := 1024

/-- A head that does not fit into the capacity for heads. -/
structure HeadOverflow where
  capacity : Nat
  deriving DecidableEq, Repr

/-- The wording of an overflow. -/
def HeadOverflow.message (e : HeadOverflow) : String :=
  "response header block exceeds " ++ toString e.capacity ++ " bytes"

/-- How far a flush got. -/
inductive FlushOutcome where
  /-- All has been sent. -/
  | done (written : Nat)
  /-- The stream would block with some left to send. -/
  | blocked (written : Nat)
  /-- The stream took nothing although there was something to take. -/
  | closedWhileWriting
  /-- The stream failed. -/
  | failed (reason : String)
  /-- A cursor points beyond its segment. -/
  | outOfRange
  deriving DecidableEq, Repr

/-- A response on its way. -/
structure Writer where
  head : Bytes
  capacity : Nat
  headSent : Nat
  file : Option Bytes
  fileSent : Nat
  toSend : Nat
  sent : Nat
  deriving DecidableEq, Repr

namespace Writer

/-- A writer with nothing to send. -/
def ofCapacity (capacity : Nat) : Writer := ⟨[], capacity, 0, none, 0, 0, 0⟩

/-- Drops what is on its way. -/
def clear (w : Writer) : Writer := ofCapacity w.capacity

/-- Puts a response on its way, in the place of any other.  Nothing is on its way
if the head does not fit. -/
def compose (w : Writer) (r : Response) : Except HeadOverflow Unit × Writer :=
  if w.capacity < r.head.length then (.error ⟨w.capacity⟩, w.clear)
  else
    (.ok (), { w.clear with
      head := r.head
      file := r.attachment?
      toSend := r.head.length + (r.attachment?.getD []).length })

/-- Whether nothing is left to send. -/
def isIdle (w : Writer) : Bool := w.toSend = 0

/-- Whether a file is held. -/
def hasFile (w : Writer) : Bool := w.file.isSome

/-- Lets the file go. -/
def release (w : Writer) : Writer := { w with file := none }

/-- What is left of a segment, if the cursor lies within it. -/
def left? (segment : Bytes) (sent : Nat) : Option Bytes :=
  if sent ≤ segment.length then some (segment.drop sent) else none

/-- What is offered to the stream: the rest of the head and the rest of the file. -/
def offer? (w : Writer) : Option Bytes :=
  match left? w.head w.headSent, left? (w.file.getD []) w.fileSent with
  | some h, some f => some (h ++ f)
  | _, _ => none

/-- Moves cursors and counters over `n` octets that were accepted. -/
def advance (w : Writer) (n : Nat) : Writer :=
  let fromHead := min n (w.head.length - w.headSent)
  { w with
    sent := w.sent + n
    toSend := w.toSend - n
    headSent := w.headSent + fromHead
    fileSent := w.fileSent + (n - fromHead) }

/-- What one write comes to. -/
inductive Turn where
  | stop (answer : FlushOutcome) (w : Writer) (s : Stream)
  /-- So many octets were accepted. -/
  | again (count : Nat) (w : Writer) (s : Stream)

/-- One write of a writer that has something left to send.  `written` counts the
octets accepted earlier in the same flush. -/
def turn (w : Writer) (s : Stream) (written : Nat) : Turn :=
  match w.offer? with
  | none => .stop .outOfRange w s
  | some offer =>
    match s.write offer with
    | (.ok 0, s) => .stop .closedWhileWriting w.release s
    | (.ok (n + 1), s) => .again (n + 1) (w.advance (n + 1)) s
    | (.error .wouldBlock, s) => .stop (.blocked written) w s
    | (.error .interrupted, s) => .again 0 w s
    | (.error (.failed reason), s) => .stop (.failed reason) w.release s

/-- A turn that goes on has used up a word on the next write, or there were none
and it has sent something. -/
theorem turn_again {w w' : Writer} {s s' : Stream} {written n : Nat} (hleft : w.toSend ≠ 0)
    (h : w.turn s written = .again n w' s') :
    s'.accepting.length + w'.toSend < s.accepting.length + w.toSend := by
  unfold turn at h
  split at h
  · cases h
  case h_2 offer _ =>
    cases hw : s.write offer with
    | mk result s1 =>
      have used : s1.accepting.length < s.accepting.length ∨
          (s1.accepting = s.accepting ∧ ∃ k, result = .ok k) := by
        unfold Stream.write at hw
        split at hw
        case h_1 => cases hw; exact Or.inr ⟨rfl, _, rfl⟩
        case h_2 he => cases hw; left; rw [he]; simp
        case h_3 he => cases hw; left; rw [he]; simp
      rw [hw] at h
      rcases result with (_ | _ | _) | (_ | k)
      case error.wouldBlock => cases h
      case error.failed => cases h
      case ok.zero => cases h
      case error.interrupted =>
        cases h
        rcases used with u | ⟨_, _, u⟩
        · omega
        · cases u
      case ok.succ =>
        cases h
        have hsent : (w.advance (k + 1)).toSend = w.toSend - (k + 1) := rfl
        rcases used with u | ⟨u, _⟩
        · omega
        · rw [u]
          omega

/-- Writes as long as the stream accepts something. -/
def sendLoop (w : Writer) (s : Stream) (written : Nat) : FlushOutcome × Writer × Stream :=
  if _hs : w.toSend = 0 then (.done written, w.release, s)
  else
    match _h : w.turn s written with
    | .stop answer w s => (answer, w, s)
    | .again n w s => sendLoop w s (written + n)
termination_by s.accepting.length + w.toSend
decreasing_by exact turn_again _hs _h

/-- Sends as much as the stream accepts.  The file is let go when all has been
sent and when the stream has failed. -/
def flush (w : Writer) (s : Stream) : FlushOutcome × Writer × Stream := w.sendLoop s 0

end Writer
end Http
end SiteServer
