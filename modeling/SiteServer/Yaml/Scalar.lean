import SiteServer.Text.RangeTable
import SiteServer.Yaml.Cursor

/-!
# Scalars

A scalar is written plainly, in quotes, or as a block of lines.  A plain or quoted one
may go over several lines: a single line break then counts as a space, and of several
breaks the first does not count.  In a block every line break counts, or, if it is
folded, those next to a line that begins with a blank; what remains of the breaks at
its end the header says.
-/

namespace SiteServer
namespace Yaml

/-! ## Text with blanks and breaks pending -/

/-- The text of a scalar as far as it has been read.  Blanks and line breaks wait
until it is known whether anything follows them. -/
structure Folding where
  /-- The text, the last character in front. -/
  text : List Char := []
  /-- Blanks, the last in front. -/
  blanks : List Char := []
  /-- After a line break: the first break, if it counts at all, and the breaks after
  it, the last in front. -/
  breaks : Option (List Char × List Char) := none

namespace Folding

/-- Whether anything is waiting. -/
def isPending (f : Folding) : Bool := !f.blanks.isEmpty || f.breaks.isSome

/-- Adds what is waiting to the text. -/
def flush (f : Folding) : Folding :=
  match f.breaks with
  | none => { text := f.blanks ++ f.text }
  | some (first, more) =>
    if first = ['\n'] then { text := if more.isEmpty then ' ' :: f.text else more ++ f.text }
    else { text := more ++ first ++ f.text }

/-- Adds a character. -/
def push (f : Folding) (c : Char) : Folding := { f with text := c :: f.text }

/-- Reads a blank.  At the beginning of a line it does not count. -/
def blank (f : Folding) (c : Char) : Folding :=
  if f.breaks.isSome then f else { f with blanks := c :: f.blanks }

/-- Reads a line break. -/
def lineBreak (f : Folding) (b : Char) : Folding :=
  match f.breaks with
  | none => { f with blanks := [], breaks := some ([b], []) }
  | some (first, more) => { f with breaks := some (first, b :: more) }

/-- Reads a line break that does not count. -/
def skipBreak (f : Folding) : Folding := { f with breaks := some ([], []) }

end Folding

/-! ## Plain scalars -/

/-- The characters that end a plain scalar in a flow collection. -/
def isFlowMark (c : Char) : Bool := [',', '[', ']', '\x7b', '\x7d'].contains c

/-- Whether a plain scalar ends here, before a colon that is followed by a gap, or a
mark of the flow collection it stands in. -/
def endsPlain (inFlow : Bool) : List Char → Bool
  | [] => true
  | c :: rest => (c = ':' && isGap rest) || (inFlow && isFlowMark c)

/-- A colon that would neither belong to the scalar nor end it. -/
def isStrayColon : List Char → Bool
  | ':' :: c :: _ => isFlowMark c || c = '?'
  | _ => false

/-- Reads a plain scalar.  Its lines have to reach the column `indent`, unless it stands
in a flow collection.  Blanks and breaks behind it are passed too. -/
def readPlain (inFlow : Bool) (indent : Nat) (c : Cursor) (f : Folding) :
    Option (Cursor × Folding) :=
  match _rest : c.rest with
  | [] => some (c, f)
  | d :: rest =>
    if isBlank d then
      if f.breaks.isSome && c.column < indent && d = '\t' then none
      else readPlain inFlow indent (c.skip 1) (f.blank d)
    else
      match _ : c.lineBreak? with
      | some (b, next) => readPlain inFlow indent next (f.lineBreak b)
      | none =>
        if f.isPending &&
            ((!inFlow && c.column < indent) || c.isAtStart || c.isAtEnd || d = '#') then
          some (c, f)
        else if inFlow && isStrayColon (d :: rest) then none
        else if endsPlain inFlow (d :: rest) then some (c, f)
        else readPlain inFlow indent (c.skip 1) (f.flush.push d)
termination_by c.rest.length
decreasing_by
  all_goals first
    | exact Cursor.length_lineBreak? ‹_›
    | exact Cursor.length_skip (by simp [_rest]) Nat.one_pos

/-! ## Quoted scalars -/

/-- What a letter behind a backslash stands for. -/
def escapes : List (Char × Char) :=
  [('0', '\x00'), ('a', '\x07'), ('b', '\x08'), ('t', '\t'), ('\t', '\t'), ('n', '\n'),
    ('v', '\x0b'), ('f', '\x0c'), ('r', '\r'), ('e', '\x1b'), (' ', ' '), ('"', '"'),
    ('/', '/'), ('\\', '\\'), ('N', '\u0085'), ('_', '\u00a0'), ('L', '\u2028'),
    ('P', '\u2029')]

/-- How many digits follow a letter behind a backslash. -/
def escapeDigits? (c : Char) : Option Nat := [('x', 2), ('u', 4), ('U', 8)].lookup c

/-- The character a number of hexadecimal digits stands for. -/
def hexChar? (digits : List Char) : Option Char :=
  if digits.all fun d => (Text.hexDigit? d).isSome then
    let n := Text.hexNumber digits
    if h : n.isValidChar then some (Char.ofNatAux n h) else none
  else none

/-- The character that an escape stands for and the length of the escape, without its
backslash. -/
def escape? : List Char → Option (Char × Nat)
  | [] => none
  | c :: rest =>
    match escapeDigits? c with
    | some n =>
      if n ≤ rest.length then (hexChar? (rest.take n)).map fun d => (d, n + 1) else none
    | none => (escapes.lookup c).map fun d => (d, 1)

/-- What stands next in a quoted scalar, at a character that is no blank and no break:
the closing quote, a line break that does not count, or a character and its length. -/
inductive QuotedItem where
  | close
  | skippedBreak (next : Cursor)
  | char (value : Char) (length : Nat)

/-- Reads what stands next in a quoted scalar. -/
def quotedItem? (double : Bool) (c : Cursor) : Option QuotedItem :=
  match double, c.rest with
  | _, [] => none
  | true, '"' :: _ => some .close
  | true, '\\' :: rest =>
    match (c.skip 1).lineBreak? with
    | some (_, next) => some (.skippedBreak next)
    | none => (escape? rest).map fun (d, n) => .char d (n + 1)
  | false, '\'' :: '\'' :: _ => some (.char '\'' 2)
  | false, '\'' :: _ => some .close
  | _, d :: _ => some (.char d 1)

/-- Reads a scalar in double or single quotes, from behind its first quote. -/
def readQuoted (double : Bool) (c : Cursor) (f : Folding) : Option (Cursor × Folding) :=
  match c.rest with
  | [] => none
  | d :: _ =>
    let next : Option (Cursor × Folding × Bool) :=
      if isBlank d then some (c.skip 1, f.blank d, false)
      else
        match c.lineBreak? with
        | some (b, next) => some (next, f.lineBreak b, false)
        | none =>
          if c.isAtStart || c.isAtEnd then none
          else
            match quotedItem? double c with
            | none => none
            | some .close => some (c.skip 1, f.flush, true)
            | some (.skippedBreak next) => some (next, f.flush.skipBreak, false)
            | some (.char d n) => some (c.skip n, f.flush.push d, false)
    match next with
    | none => none
    | some (next, f, true) => some (next, f)
    | some (next, f, false) =>
      if next.rest.length < c.rest.length then readQuoted double next f else none
termination_by c.rest.length

/-! ## Block scalars -/

/-- What becomes of the line breaks at the end of a block. -/
inductive Chomping where
  | strip
  | clip
  | keep
  deriving DecidableEq, Repr

/-- Reads the sign that says what becomes of the breaks at the end. -/
def chomping? : List Char → Option Chomping
  | '+' :: _ => some .keep
  | '-' :: _ => some .strip
  | _ => none

/-- Reads the digit that says how far a block is indented, zero if there is none.
There is no block that is indented by nothing. -/
def increment? : List Char → Option Nat
  | '0' :: _ => none
  | c :: _ => some (if c.isDigit then c.toNat - '0'.toNat else 0)
  | [] => some 0

/-- Reads the header of a block, sign and digit in either order. -/
def blockHeader? (c : Cursor) : Option (Chomping × Nat × Cursor) :=
  match chomping? c.rest with
  | some chomping => do
    let increment ← increment? (c.rest.drop 1)
    let c ← (c.skip (if increment = 0 then 1 else 2)).finishLine?
    some (chomping, increment, c)
  | none => do
    let increment ← increment? c.rest
    if increment = 0 then
      let c ← c.finishLine?
      some (.clip, 0, c)
    else
      let chomping := chomping? (c.rest.drop 1)
      let c ← (c.skip (if chomping.isSome then 2 else 1)).finishLine?
      some (chomping.getD .clip, increment, c)

/-- Passes spaces up to a column, or all if the column is zero. -/
def skipIndent (indent : Nat) (c : Cursor) : Cursor :=
  let spaces := (c.rest.takeWhile (· = ' ')).length
  c.skip (if indent = 0 then spaces else min spaces (indent - c.column))

theorem length_skipIndent (indent : Nat) (c : Cursor) :
    (skipIndent indent c).rest.length ≤ c.rest.length := by
  simp only [skipIndent, Cursor.skip, List.length_drop]
  omega

/-- Passes empty lines and the indentation of the line after them.  Yields the breaks,
the last in front, and the farthest column that was reached.  A tab may not stand where
indentation is expected. -/
def readEmptyLines (indent : Nat) (c : Cursor) (farthest : Nat) (breaks : List Char) :
    Option (Cursor × Nat × List Char) :=
  let d := skipIndent indent c
  let farthest := max farthest d.column
  if (indent = 0 || d.column < indent) && d.rest.head? = some '\t' then none
  else
    match _ : d.lineBreak? with
    | some (b, next) => readEmptyLines indent next farthest (b :: breaks)
    | none => some (d, farthest, breaks)
termination_by c.rest.length
decreasing_by
  exact Nat.lt_of_lt_of_le (Cursor.length_lineBreak? ‹_›) (length_skipIndent _ _)

/-- A block as far as it has been read. -/
structure Block where
  /-- The text, the last character in front. -/
  text : List Char := []
  /-- The break behind the last line. -/
  lead : List Char := []
  /-- The breaks of the empty lines after it, the last in front. -/
  trail : List Char
  /-- Whether the last line begins with a blank. -/
  blank : Bool := false

/-- Adds the breaks that wait, before a line. -/
def Block.join (literal : Bool) (b : Block) (blank : Bool) : List Char :=
  if !literal && b.lead = ['\n'] && !b.blank && !blank then
    b.trail ++ (if b.trail.isEmpty then ' ' :: b.text else b.text)
  else b.trail ++ b.lead ++ b.text

/-- Reads the lines of a block. -/
def readLines (literal : Bool) (indent : Nat) (c : Cursor) (b : Block) :
    Option (Cursor × Block) :=
  match c.rest with
  | [] => some (c, b)
  | d :: _ =>
    if c.column = indent then
      let line := c.rest.takeWhile fun e => !isBreak e
      let stop := c.skipWhile fun e => !isBreak e
      let (lead, next) :=
        match stop.lineBreak? with
        | some (e, next) => ([e], next)
        | none => ([], stop)
      match readEmptyLines indent next 0 [] with
      | none => none
      | some (next, _, trail) =>
        let text := line.reverse ++ b.join literal (isBlank d)
        if next.rest.length < c.rest.length then
          readLines literal indent next { text, lead, trail, blank := isBlank d }
        else none
    else some (c, b)
termination_by c.rest.length

/-- Reads a block scalar, from behind its first character.  `column` is the column of
the collection it stands in, if it stands in one. -/
def readBlock (literal : Bool) (column : Option Nat) (c : Cursor) :
    Option (Cursor × List Char) := do
  let (chomping, increment, c) ← blockHeader? c
  let indent := if increment = 0 then 0 else column.getD 0 + increment
  let (c, farthest, trail) ← readEmptyLines indent c 0 []
  let least := max 1 ((column.map (· + 1)).getD 0)
  let indent := if indent = 0 then max farthest least else indent
  let (c, b) ← readLines literal indent c { trail }
  let text :=
    match chomping with
    | .strip => b.text
    | .clip => b.lead ++ b.text
    | .keep => b.trail ++ b.lead ++ b.text
  some (c, text.reverse)

end Yaml
end SiteServer
