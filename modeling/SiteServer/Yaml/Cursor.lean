import SiteServer.Yaml.Token

/-!
# A place in a stream

What is left of a stream, with the place reached: how many characters have been
passed, in all and in the current line, and how many lines.
-/

namespace SiteServer
namespace Yaml

/-- A place in a stream. -/
structure Cursor where
  /-- What is left. -/
  rest : List Char
  /-- How many characters came before. -/
  index : Nat := 0
  line : Nat := 0
  column : Nat := 0

namespace Cursor

/-- A mark that may stand before all text and takes a column there. -/
def byteOrderMark : Char := '\ufeff'

/-- The beginning of a stream, behind its byte order mark. -/
def ofText (text : List Char) : Cursor :=
  match text with
  | c :: rest =>
    if c = byteOrderMark then { rest := rest, index := 1, column := 1 } else { rest := text }
  | [] => { rest := [] }

/-- Passes characters of one line. -/
def skip (c : Cursor) (n : Nat) : Cursor :=
  { c with rest := c.rest.drop n, index := c.index + n, column := c.column + n }

/-- Passes the longest run of characters of a kind that holds no line break. -/
def skipWhile (p : Char → Bool) (c : Cursor) : Cursor :=
  { c with
    rest := c.rest.dropWhile p
    index := c.index + (c.rest.takeWhile p).length
    column := c.column + (c.rest.takeWhile p).length }

/-- The place in the next line, behind a break of so many characters. -/
def nextLine (c : Cursor) (n : Nat) : Cursor :=
  { rest := c.rest.drop n, index := c.index + n, line := c.line + 1, column := 0 }

/-- The line break that stands here, as it counts in a text, and the place behind
it. -/
def lineBreak? (c : Cursor) : Option (Char × Cursor) :=
  match c.rest with
  | '\r' :: '\n' :: _ => some ('\n', c.nextLine 2)
  | d :: _ =>
    if d = '\r' || d = '\n' || d = '\u0085' then some ('\n', c.nextLine 1)
    else if d = '\u2028' || d = '\u2029' then some (d, c.nextLine 1)
    else none
  | [] => none

/-- Passes the line break that stands here, if one does. -/
def skipBreak (c : Cursor) : Cursor :=
  match c.lineBreak? with
  | some (_, d) => d
  | none => c

/-- Passes a comment, up to the end of its line. -/
def skipComment (c : Cursor) : Cursor :=
  match c.rest with
  | '#' :: _ => c.skipWhile fun d => !isBreak d
  | _ => c

/-- Passes what may follow at the end of a line, blanks and a comment, and the line
break.  There is no place if anything else follows. -/
def finishLine? (c : Cursor) : Option Cursor :=
  let c := (c.skipWhile isBlank).skipComment
  if isLineEnd c.rest then some c.skipBreak else none

/-- Whether a line begins here with this mark and a gap. -/
def isAtMark (c : Cursor) (mark : List Char) : Bool :=
  c.column = 0 && mark.isPrefixOf c.rest && isGap (c.rest.drop mark.length)

/-- Whether the mark that begins a document stands here. -/
def isAtStart (c : Cursor) : Bool := c.isAtMark ['-', '-', '-']

/-- Whether the mark that ends a document stands here. -/
def isAtEnd (c : Cursor) : Bool := c.isAtMark ['.', '.', '.']

/-! ## Going on -/

theorem length_skip {c : Cursor} {n : Nat} (h : c.rest ≠ []) (hn : 0 < n) :
    (c.skip n).rest.length < c.rest.length := by
  have := List.length_pos_iff.2 h
  simp only [skip, List.length_drop]
  omega

theorem length_skipWhile (p : Char → Bool) (c : Cursor) :
    (c.skipWhile p).rest.length ≤ c.rest.length := (List.dropWhile_sublist p).length_le

theorem length_skipComment (c : Cursor) : c.skipComment.rest.length ≤ c.rest.length := by
  unfold skipComment
  split
  · exact length_skipWhile _ _
  · exact Nat.le_refl _

/-- A line break takes at least one character. -/
theorem length_lineBreak? {c d : Cursor} {b : Char} (h : c.lineBreak? = some (b, d)) :
    d.rest.length < c.rest.length := by
  unfold lineBreak? at h
  split at h
  case h_1 r hr =>
    simp only [Option.some.injEq, Prod.mk.injEq] at h
    simp only [← h.2, nextLine, hr, List.drop_succ_cons, List.drop_zero, List.length_cons]
    omega
  case h_2 e r hr _ =>
    have step : (c.nextLine 1).rest.length < c.rest.length := by simp [nextLine, *]
    split at h
    · simp only [Option.some.injEq, Prod.mk.injEq] at h
      exact h.2 ▸ step
    · split at h
      · simp only [Option.some.injEq, Prod.mk.injEq] at h
        exact h.2 ▸ step
      · cases h
  case h_3 => cases h

end Cursor
end Yaml
end SiteServer
