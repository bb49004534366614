import SiteServer.Bytes

/-!
# Tokens of YAML

A YAML stream is a row of tokens.  Some of them stand for characters, like the entry
of a flow collection; others for a change of indentation, like the beginning and the
end of a block collection.
-/

namespace SiteServer
namespace Yaml

/-! ## Characters -/

/-- The characters a stream may hold. -/
def isAllowed (c : Char) : Bool :=
  let n := c.toNat
  n = 0x09 || n = 0x0A || n = 0x0D || (0x20 ≤ n && n ≤ 0x7E) || n = 0x85 ||
    (0xA0 ≤ n && n ≤ 0xFFFD) || 0x10000 ≤ n

/-- A space or a tab. -/
def isBlank (c : Char) : Bool := c = ' ' || c = '\t'

/-- A line break, or the first half of one. -/
def isBreak (c : Char) : Bool :=
  c = '\r' || c = '\n' || c = '\u0085' || c = '\u2028' || c = '\u2029'

/-- Whether no word goes on here: at a blank, a line break and the end. -/
def isGap : List Char → Bool
  | [] => true
  | c :: _ => isBlank c || isBreak c

/-- Whether a line ends here. -/
def isLineEnd : List Char → Bool
  | [] => true
  | c :: _ => isBreak c

/-- A character of a name: a letter, a digit, a hyphen or a low line. -/
def isNameChar (c : Char) : Bool := c.isAlphanum || c = '-' || c = '_'

/-! ## Tokens -/

/-- How a scalar is written. -/
inductive Style where
  | plain
  | quoted
  | literal
  | folded
  deriving DecidableEq, Repr

/-- A token. -/
inductive Token where
  /-- The version a document asks for. -/
  | version (major minor : Nat)
  /-- A handle for tags and what it stands for. -/
  | handle (name : List Char) (start : Bytes)
  | documentStart
  | documentEnd
  | streamEnd
  | blockSequence
  | blockMapping
  | blockEnd
  | flowSequence
  | flowSequenceEnd
  | flowMapping
  | flowMappingEnd
  | blockEntry
  | flowEntry
  | key
  | value
  | alias (name : List Char)
  | anchor (name : List Char)
  | tag (handle : List Char) (rest : Bytes)
  | scalar (style : Style) (text : List Char)
  deriving DecidableEq, Repr

end Yaml
end SiteServer
