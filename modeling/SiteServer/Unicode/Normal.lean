import SiteServer.Unicode.CombiningClass
import SiteServer.Unicode.Decomposition

/-!
# Composed normal form

Two spellings of one text have the same composed normal form.  Every character is
taken apart, the marks behind each base are put into the order of their classes, and
base and marks are put together again where a composition exists and no mark of the
same class stands in between.
-/

namespace SiteServer
namespace Unicode

/-! ## Hangul syllables -/

namespace Hangul

def syllableBase : Nat := 0xAC00
def leadBase : Nat := 0x1100
def vowelBase : Nat := 0x1161
def tailBase : Nat := 0x11A7
def leadCount : Nat := 19
def vowelCount : Nat := 21
def tailCount : Nat := 28

/-- How many syllables there are. -/
def syllableCount : Nat := leadCount * vowelCount * tailCount

/-- The letters of a syllable. -/
def decompose? (n : Nat) : Option (List Nat) :=
  if syllableBase ≤ n ∧ n < syllableBase + syllableCount then
    let s := n - syllableBase
    let lead := leadBase + s / (vowelCount * tailCount)
    let vowel := vowelBase + s % (vowelCount * tailCount) / tailCount
    let tail := s % tailCount
    some (if tail = 0 then [lead, vowel] else [lead, vowel, tailBase + tail])
  else none

/-- The syllable of two letters, or of a syllable and a last letter. -/
def compose? (a b : Nat) : Option Nat :=
  if leadBase ≤ a ∧ a < leadBase + leadCount ∧ vowelBase ≤ b ∧ b < vowelBase + vowelCount then
    some (syllableBase + ((a - leadBase) * vowelCount + (b - vowelBase)) * tailCount)
  else if syllableBase ≤ a ∧ a < syllableBase + syllableCount
      ∧ (a - syllableBase) % tailCount = 0 ∧ tailBase < b ∧ b < tailBase + tailCount then
    some (a + (b - tailBase))
  else none

end Hangul

/-! ## Taking apart and ordering -/

/-- A character's full canonical decomposition. -/
def decompose (n : Nat) : List Nat :=
  match Hangul.decompose? n with
  | some letters => letters
  | none => (decompositions.lookup? n).getD [n]

/-- Puts a character with class `k` in front of others, behind those of its marks
that have a smaller class. -/
def insertMark (n k : Nat) : List (Nat × Nat) → List (Nat × Nat)
  | [] => [(n, k)]
  | (m, j) :: rest =>
    if 0 < k ∧ 0 < j ∧ j < k then (m, j) :: insertMark n k rest else (n, k) :: (m, j) :: rest

/-- The characters with their classes, marks in the order of their classes. -/
def order (text : List Nat) : List (Nat × Nat) :=
  text.foldr (fun n done => insertMark n (combiningClass n) done) []

/-! ## Putting together -/

/-- Reads pairs from a list of even length. -/
def pairUp : List Nat → List (Nat × Nat)
  | a :: b :: rest => (a, b) :: pairUp rest
  | _ => []

/-- The composition of two characters. -/
def compose? (a b : Nat) : Option Nat :=
  match Hangul.compose? a b with
  | some s => some s
  | none => ((compositions.lookup? a).map pairUp).bind fun pairs => pairs.lookup b

/-- Puts together what follows a base.  `marks` are those passed so far, the last in
front, and `last` is the class of the last of them, zero if there is none. -/
def composeFrom (base : Nat) (marks : List Nat) (last : Nat) : List (Nat × Nat) → List Nat
  | [] => base :: marks.reverse
  | (n, k) :: rest =>
    let free := marks.isEmpty || last < k
    match if free then compose? base n else none with
    | some c => composeFrom c marks last rest
    | none =>
      if k = 0 then base :: marks.reverse ++ composeFrom n [] 0 rest
      else composeFrom base (n :: marks) k rest

/-- Puts together ordered characters. -/
def composeAll : List (Nat × Nat) → List Nat
  | [] => []
  | (n, k) :: rest => if k = 0 then composeFrom n [] 0 rest else n :: composeAll rest

/-- The composed normal form. -/
def normalize (text : List Nat) : List Nat := composeAll (order (text.flatMap decompose))

end Unicode
end SiteServer
