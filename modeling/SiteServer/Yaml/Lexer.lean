import SiteServer.Yaml.Property
import SiteServer.Yaml.Scalar

/-!
# From characters to tokens

What a character means depends on the columns of the block collections that are open,
on whether a flow collection is open, and on whether a key may begin here.  That a key
has begun is known only at the colon behind it, so the place of the last node that
could be a key is kept, one for each flow collection that is open and one for the
blocks around them, and the token for the key is put in there later.
-/

namespace SiteServer
namespace Yaml

/-- The place of a node that may turn out to be a key. -/
structure KeyPlace where
  /-- Whether nothing but a key may stand there. -/
  required : Bool
  /-- How many tokens came before. -/
  number : Nat
  index : Nat
  line : Nat
  column : Nat
  deriving Repr

namespace KeyPlace

/-- The most characters between the beginning of a key and its colon. -/
def maxLength : Nat := 1024

/-- Whether a colon here can no longer belong to the key: it is on another line or too
far away. -/
def isPast (k : KeyPlace) (c : Cursor) : Bool :=
  k.line < c.line || k.index + maxLength < c.index

end KeyPlace

/-- A reader of characters. -/
structure Lexer where
  cursor : Cursor
  /-- The columns of the block collections that are open, the innermost in front. -/
  columns : List Nat := []
  /-- Where a key may have begun. -/
  key : Option KeyPlace := none
  /-- The same for the collections around each flow collection that is open. -/
  outer : List (Option KeyPlace) := []
  /-- Whether a key may begin here. -/
  keyAllowed : Bool := true
  /-- The tokens read, the last in front. -/
  tokens : List Token := []
  /-- How many there are. -/
  count : Nat := 0

namespace Lexer

/-- Whether a flow collection is open. -/
def inFlow (l : Lexer) : Bool := !l.outer.isEmpty

/-- Adds a token. -/
def emit (l : Lexer) (t : Token) : Lexer :=
  { l with tokens := t :: l.tokens, count := l.count + 1 }

/-- Puts a token in behind the first `number` tokens. -/
def insert (l : Lexer) (number : Nat) (t : Token) : Lexer :=
  let behind := l.count - number
  { l with tokens := l.tokens.take behind ++ t :: l.tokens.drop behind, count := l.count + 1 }

/-- Adds a token for some characters, which are passed. -/
def emitPassing (l : Lexer) (n : Nat) (t : Token) : Lexer :=
  { l.emit t with cursor := l.cursor.skip n }

/-! ## Keys -/

/-- Forgets that a key may have begun.  That is a fault if one had to. -/
def dropKey (l : Lexer) : Option Lexer :=
  if (l.key.map KeyPlace.required).getD false then none else some { l with key := none }

/-- Keeps this place if a key may begin here. -/
def saveKey (l : Lexer) : Option Lexer :=
  if l.keyAllowed then
    let c := l.cursor
    l.dropKey.map fun l => { l with key := some {
      required := !l.inFlow && l.columns.head? = some c.column
      number := l.count, index := c.index, line := c.line, column := c.column } }
  else some l

/-- Forgets a key that is past. -/
def refreshKey (c : Cursor) : Option KeyPlace → Option (Option KeyPlace)
  | none => some none
  | some k => if k.isPast c then if k.required then none else some none else some (some k)

/-- Forgets every key that is past. -/
def refreshKeys (l : Lexer) : Option Lexer := do
  let key ← refreshKey l.cursor l.key
  let outer ← l.outer.mapM (refreshKey l.cursor)
  some { l with key, outer }

/-! ## Blocks -/

/-- Opens a block collection at a column that is farther than those that are open.  Its
token goes behind the first `number` tokens. -/
def openBlock (l : Lexer) (column number : Nat) (t : Token) : Lexer :=
  if l.inFlow || (l.columns.head?.map (decide <| column ≤ ·)).getD false then l
  else { l.insert number t with columns := column :: l.columns }

/-- Closes the block collections whose column is `out`. -/
def closeBlocks (l : Lexer) (out : Nat → Bool) : Lexer :=
  if l.inFlow then l
  else
    let closed := l.columns.takeWhile out
    { l with
      columns := l.columns.dropWhile out
      tokens := closed.map (fun _ => .blockEnd) ++ l.tokens
      count := l.count + closed.length }

/-- Closes all block collections. -/
def closeAll (l : Lexer) : Lexer := l.closeBlocks fun _ => true

/-! ## Between tokens -/

/-- Passes blanks, comments and line breaks.  A tab is no blank where a key may begin
in a block.  In a block a key may begin on a new line. -/
def skipGap (inFlow keyAllowed : Bool) (c : Cursor) : Cursor × Bool :=
  let blank (d : Char) : Bool := d = ' ' || (d = '\t' && (inFlow || !keyAllowed))
  let d := (c.skipWhile blank).skipComment
  match _ : d.lineBreak? with
  | some (_, next) => skipGap inFlow (keyAllowed || !inFlow) next
  | none => (d, keyAllowed)
termination_by c.rest.length
decreasing_by
  exact Nat.lt_of_lt_of_le (Cursor.length_lineBreak? ‹_›)
    (Nat.le_trans (Cursor.length_skipComment _) (Cursor.length_skipWhile _ _))

/-- Goes to the next token. -/
def toToken (l : Lexer) : Option Lexer := do
  let (cursor, keyAllowed) := skipGap l.inFlow l.keyAllowed l.cursor
  let l ← { l with cursor, keyAllowed }.refreshKeys
  some (l.closeBlocks (cursor.column < ·))

/-! ## Tokens -/

/-- Reads a mark of a document or a directive, which ends all blocks. -/
def takeOuter (l : Lexer) (read : Cursor → Option (Token × Cursor)) : Option Lexer := do
  let l ← l.closeAll.dropKey
  let (t, cursor) ← read l.cursor
  some { l.emit t with cursor, keyAllowed := false }

/-- Reads the beginning of a flow collection. -/
def takeFlowStart (l : Lexer) (t : Token) : Option Lexer := do
  let l ← l.saveKey
  some { l.emitPassing 1 t with key := none, outer := l.key :: l.outer, keyAllowed := true }

/-- Reads the end of a flow collection. -/
def takeFlowEnd (l : Lexer) (t : Token) : Option Lexer := do
  let l ← l.dropKey
  let l := l.emitPassing 1 t
  match l.outer with
  | [] => some { l with keyAllowed := false }
  | key :: outer => some { l with key, outer, keyAllowed := false }

/-- Reads the comma between entries of a flow collection. -/
def takeFlowEntry (l : Lexer) : Option Lexer := do
  let l ← l.dropKey
  some { l.emitPassing 1 .flowEntry with keyAllowed := true }

/-- Reads the mark of an entry, `opening` being the collection it may open. -/
def takeMark (l : Lexer) (opening t : Token) (keyAllowed : Bool) : Option Lexer := do
  if !l.inFlow && !l.keyAllowed then none
  else
    let l ← (l.openBlock l.cursor.column l.count opening).dropKey
    some { l.emitPassing 1 t with keyAllowed }

/-- Reads the colon before a value. -/
def takeValue (l : Lexer) : Option Lexer :=
  match l.key with
  | some k =>
    let l := (l.insert k.number .key).openBlock k.column k.number .blockMapping
    some { l.emitPassing 1 .value with key := none, keyAllowed := false }
  | none =>
    if l.inFlow then some { l.emitPassing 1 .value with keyAllowed := false }
    else if l.keyAllowed then
      let l := l.openBlock l.cursor.column l.count .blockMapping
      some { l.emitPassing 1 .value with keyAllowed := true }
    else none

/-- Reads a token that may begin a key, from behind its first `passed` characters. -/
def takeNode (l : Lexer) (passed : Nat) (read : Cursor → Option (Token × Cursor)) :
    Option Lexer := do
  let l ← l.saveKey
  let (t, cursor) ← read (l.cursor.skip passed)
  some { l.emit t with cursor, keyAllowed := false }

/-- Reads a plain scalar.  A key may begin behind it if it ends with its line. -/
def takePlain (l : Lexer) : Option Lexer := do
  let l ← l.saveKey
  let indent := (l.columns.head?.map (· + 1)).getD 0
  let (cursor, f) ← readPlain l.inFlow indent l.cursor {}
  some { l.emit (.scalar .plain f.text.reverse) with
    cursor, keyAllowed := f.breaks.isSome }

/-- Reads a block scalar. -/
def takeBlock (l : Lexer) (style : Style) : Option Lexer := do
  let l ← l.dropKey
  let (cursor, text) ← readBlock (style = .literal) l.columns.head? (l.cursor.skip 1)
  some { l.emit (.scalar style text) with cursor, keyAllowed := true }

/-- Whether a plain scalar begins here. -/
def startsPlain (inFlow : Bool) : List Char → Bool
  | [] => false
  | c :: rest =>
    if isBlank c || isBreak c then false
    else if c = '-' then !(rest.head?.map isBlank).getD false
    else if c = '?' || c = ':' then !inFlow && !isGap rest
    else
      !([',', '[', ']', '\x7b', '\x7d', '#', '&', '*', '!', '|', '>', '\'', '"', '%', '@',
        '\x60'].contains c)

/-- Reads one token. -/
def take (l : Lexer) : Option Lexer :=
  let c := l.cursor
  if c.column = 0 && c.rest.head? = some '%' then l.takeOuter readDirective
  else if c.isAtStart then l.takeOuter fun c => some (.documentStart, c.skip 3)
  else if c.isAtEnd then l.takeOuter fun c => some (.documentEnd, c.skip 3)
  else
    match c.rest with
    | [] => none
    | d :: rest =>
      let marks := l.inFlow || isGap rest
      if d = '[' then l.takeFlowStart .flowSequence
      else if d = '\x7b' then l.takeFlowStart .flowMapping
      else if d = ']' then l.takeFlowEnd .flowSequenceEnd
      else if d = '\x7d' then l.takeFlowEnd .flowMappingEnd
      else if d = ',' then l.takeFlowEntry
      else if d = '-' && isGap rest then l.takeMark .blockSequence .blockEntry true
      else if d = '?' && marks then l.takeMark .blockMapping .key (!l.inFlow)
      else if d = ':' && marks then l.takeValue
      else if d = '*' then
        l.takeNode 1 fun c => (anchorName? c).map fun (name, c) => (.alias name, c)
      else if d = '&' then
        l.takeNode 1 fun c => (anchorName? c).map fun (name, c) => (.anchor name, c)
      else if d = '!' then l.takeNode 0 (readTag l.inFlow)
      else if d = '|' && !l.inFlow then l.takeBlock .literal
      else if d = '>' && !l.inFlow then l.takeBlock .folded
      else if d = '\'' || d = '"' then
        l.takeNode 1 fun c => (readQuoted (d = '"') c {}).map fun (c, f) =>
          (.scalar .quoted f.text.reverse, c)
      else if startsPlain l.inFlow c.rest then l.takePlain
      else none

/-- Ends the stream. -/
def finish (l : Lexer) : Option (List Token) :=
  l.closeAll.dropKey.map fun l => (l.emit .streamEnd).tokens.reverse

/-- Reads all tokens.  Every token takes at least one character. -/
def run (l : Lexer) : Option (List Token) :=
  match l.toToken with
  | none => none
  | some next =>
    if next.cursor.rest.isEmpty then next.finish
    else
      match next.take with
      | none => none
      | some next =>
        if next.cursor.rest.length < l.cursor.rest.length then next.run else none
termination_by l.cursor.rest.length

end Lexer

/-- The tokens of a stream, if it is one. -/
def tokens? (text : List Char) : Option (List Token) :=
  if text.all isAllowed then Lexer.run { cursor := .ofText text } else none

end Yaml
end SiteServer
