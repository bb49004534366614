import SiteServer.Http.Buffer

/-!
# Lines

A line ends with a carriage return and a line feed, and neither of the two may
stand anywhere else.  The scanner looks at each octet once: it goes on from where
it stopped, so that a line may arrive in any number of pieces.  A carriage return
that is the last octet received decides nothing; the scanner stops in front of it
and sees it again.

Main statement: `scan_complete`, which says where a completed scan stands.
-/

namespace SiteServer
namespace Http

/-- What the scanner found. -/
inductive LineScan where
  /-- A line, from `start` up to `stop`, without its ending. -/
  | complete (start stop : Nat)
  /-- No ending yet. -/
  | incomplete
  /-- A line feed alone, or a carriage return before another octet. -/
  | malformed
  deriving DecidableEq, Repr

/-- Where a scan ended, as a distance from where it began. -/
inductive LineEnd where
  | found (length : Nat)
  | missing (length : Nat)
  | broken (length : Nat)
  deriving DecidableEq, Repr

namespace LineEnd

/-- The same end seen from one octet earlier. -/
def next : LineEnd → LineEnd
  | found n => found (n + 1)
  | missing n => missing (n + 1)
  | broken n => broken (n + 1)

/-- Looks for the end of the line in the octets not yet looked at. -/
def scan : Bytes → LineEnd
  | [] => missing 0
  | c :: rest =>
    if c = Bytes.cr then
      match rest with
      | [] => missing 0
      | d :: _ => if d = Bytes.lf then found 0 else broken 0
    else if c = Bytes.lf then broken 0
    else (scan rest).next

/-- An ending that was found lies within the octets. -/
theorem scan_found_le {bytes : Bytes} {n : Nat} (h : scan bytes = found n) :
    n + 2 ≤ bytes.length := by
  induction bytes generalizing n with
  | nil => cases h
  | cons c rest ih =>
    unfold scan at h
    split at h
    · split at h
      · cases h
      · split at h
        · cases h; simp
        · cases h
    · split at h
      · cases h
      · cases hs : scan rest with
        | found m =>
          rw [hs] at h
          cases h
          have := ih hs
          simp; omega
        | missing m => rw [hs] at h; cases h
        | broken m => rw [hs] at h; cases h

end LineEnd

namespace ReceiveBuffer

/-- Looks for the end of the current line.  A line that was found has been
looked past; otherwise the scanner stands where it has to look again. -/
def nextLine (b : ReceiveBuffer) : LineScan × ReceiveBuffer :=
  match LineEnd.scan (b.data.drop b.checked) with
  | .found n =>
    (.complete b.lineBegin (b.checked + n), { b with checked := b.checked + n + 2 })
  | .missing n => (.incomplete, { b with checked := b.checked + n })
  | .broken n => (.malformed, { b with checked := b.checked + n })

/-- Starts the next line where the scanner stands. -/
def beginLine (b : ReceiveBuffer) : ReceiveBuffer := { b with lineBegin := b.checked }

/-- A completed scan has moved on by at least the two octets of the ending, and
stays within what was received. -/
theorem scan_complete {b b' : ReceiveBuffer} {start stop : Nat}
    (h : b.nextLine = (.complete start stop, b')) :
    start = b.lineBegin ∧ b.checked ≤ stop ∧ b'.checked = stop + 2 ∧
      b'.checked ≤ b.size ∧ b' = { b with checked := b'.checked } := by
  unfold nextLine at h
  split at h
  case h_1 n hn =>
    cases h
    have := LineEnd.scan_found_le hn
    rw [List.length_drop] at this
    refine ⟨rfl, Nat.le_add_right _ _, rfl, ?_, rfl⟩
    simp only [size]
    omega
  case h_2 => cases h
  case h_3 => cases h

end ReceiveBuffer
end Http
end SiteServer
