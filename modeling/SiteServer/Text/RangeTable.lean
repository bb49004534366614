import SiteServer.Text.Words

/-!
# Tables over code points

The properties that standards give to characters are published as ranges of code
points, each with a value.  Here such a table is written down as lines of text, its
items in ascending order and apart: `"41-5a=x aa=y"`.  `RangeTable.ofLines` reads
the lines and `RangeTable.lookup?` searches them by halving.
-/

namespace SiteServer
namespace Text

/-- The value of a hexadecimal digit. -/
def hexDigit? (c : Char) : Option Nat :=
  let v := c.toNat
  if 0x30 ≤ v ∧ v ≤ 0x39 then some (v - 0x30)
  else if 0x41 ≤ v ∧ v ≤ 0x46 then some (v - 0x41 + 10)
  else if 0x61 ≤ v ∧ v ≤ 0x66 then some (v - 0x61 + 10)
  else none

/-- The number some hexadecimal digits write. -/
def hexNumber (digits : List Char) : Nat :=
  digits.foldl (fun n c => n * 16 + (hexDigit? c).getD 0) 0

/-- The numbers written between dots. -/
def hexNumbers (text : List Char) : List Nat := (split (· = '.') text).map hexNumber

/-- Ranges of code points with both ends included, ascending and apart, each with a
value. -/
structure RangeTable (β : Type) where
  rows : Array (Nat × Nat × β)

namespace RangeTable

variable {β : Type}

/-- The ends of a range: one number, or two with a hyphen between. -/
def ends (text : List Char) : Nat × Nat :=
  match splitOnce? (· = '-') text with
  | some (first, last) => (hexNumber first, hexNumber last)
  | none => (hexNumber text, hexNumber text)

/-- Reads one item, a range and what follows the equals sign. -/
def item (value : List Char → β) (text : List Char) : Nat × Nat × β :=
  let (range, v) := (splitOnce? (· = '=') text).getD (text, [])
  let (first, last) := ends range
  (first, last, value v)

/-- Reads the lines of a table. -/
def ofLines (value : List Char → β) (lines : List String) : RangeTable β :=
  ⟨lines.foldl (fun rows line =>
    (words (· = ' ') line.toList).foldl (fun rows text => rows.push (item value text)) rows) #[]⟩

/-- Looks for `n` among the rows from `lo` on and before `hi`. -/
def search (rows : Array (Nat × Nat × β)) (n lo hi : Nat) : Option β :=
  if _ : lo < hi then
    let mid := (lo + hi) / 2
    match rows[mid]? with
    | none => none
    | some (first, last, v) =>
      if n < first then search rows n lo mid
      else if last < n then search rows n (mid + 1) hi
      else some v
  else none
termination_by hi - lo

/-- The value of the range a code point lies in. -/
def lookup? (t : RangeTable β) (n : Nat) : Option β := search t.rows n 0 t.rows.size

end RangeTable

/-- A set of code points: a table in which nothing but the ranges counts. -/
structure Ranges where
  table : RangeTable Unit

namespace Ranges

/-- Reads the lines of a table of ranges. -/
def ofLines (lines : List String) : Ranges := ⟨RangeTable.ofLines (fun _ => ()) lines⟩

/-- Whether a code point lies in one of the ranges. -/
def contains (r : Ranges) (n : Nat) : Bool := (r.table.lookup? n).isSome

end Ranges
end Text
end SiteServer
