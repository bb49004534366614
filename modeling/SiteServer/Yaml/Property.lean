import SiteServer.Text.RangeTable
import SiteServer.Text.Unsigned
import SiteServer.Text.Utf8
import SiteServer.Yaml.Cursor

/-!
# Anchors, tags and directives

What may stand before a node, and before a document.  A tag is written with a handle,
or in full between angle brackets; octets of it may be escaped.
-/

namespace SiteServer
namespace Yaml

/-! ## Names -/

/-- Reads a name, which may be empty. -/
def readName (c : Cursor) : List Char × Cursor :=
  (c.rest.takeWhile isNameChar, c.skipWhile isNameChar)

/-- Whether an anchor or alias may end here. -/
def endsAnchor (rest : List Char) : Bool :=
  isGap rest || (rest.head?.map ['?', ':', ',', ']', '\x7d', '%', '@', '\x60'].contains).getD false

/-- Reads the name of an anchor or alias, from behind its first character. -/
def anchorName? (c : Cursor) : Option (List Char × Cursor) :=
  let (name, c) := readName c
  if !name.isEmpty && endsAnchor c.rest then some (name, c) else none

/-! ## Tags -/

/-- Characters of a tag besides those of names. -/
def tagMarks : List Char :=
  [';', '/', '?', ':', '@', '&', '=', '+', '$', '.', '%', '!', '~', '*', '\'', '(', ')']

/-- Characters of a tag.  Some may stand in it only if it is written in full. -/
def isTagChar (full : Bool) (c : Char) : Bool :=
  isNameChar c || tagMarks.contains c || (full && [',', '[', ']'].contains c)

/-- The octet that an escape stands for. -/
def escapedOctet? : List Char → Option UInt8
  | '%' :: a :: b :: _ =>
    match Text.hexDigit? a, Text.hexDigit? b with
    | some x, some y => some (UInt8.ofNat (16 * x + y))
    | _, _ => none
  | _ => none

/-- How many octets follow one that begins a character. -/
def octetsAfter? (b : UInt8) : Option Nat :=
  if b &&& 0x80 = 0 then some 0
  else if b &&& 0xE0 = 0xC0 then some 1
  else if b &&& 0xF0 = 0xE0 then some 2
  else if b &&& 0xF8 = 0xF0 then some 3
  else none

/-- Reads so many escapes that do not begin a character. -/
def readTrailing : Nat → List Char → Option Bytes
  | 0, _ => some []
  | n + 1, text => do
    let b ← escapedOctet? text
    if b &&& 0xC0 = 0x80 then (readTrailing n (text.drop 3)).map (b :: ·) else none

/-- Reads the escapes of one character. -/
def readEscaped (text : List Char) : Option Bytes := do
  let b ← escapedOctet? text
  let n ← octetsAfter? b
  (readTrailing n (text.drop 3)).map (b :: ·)

/-- Reads the characters of a tag. -/
def readTagChars (full : Bool) (c : Cursor) (octets : Bytes) : Option (Bytes × Cursor) :=
  match _rest : c.rest with
  | [] => some (octets, c)
  | d :: rest =>
    if !isTagChar full d then some (octets, c)
    else if d = '%' then
      match readEscaped (d :: rest) with
      | none => none
      | some bytes => readTagChars full (c.skip (max 1 (3 * bytes.length))) (octets ++ bytes)
    else readTagChars full (c.skip 1) (octets ++ Utf8.encodeChar d)
termination_by c.rest.length
decreasing_by all_goals exact Cursor.length_skip (by simp [_rest]) (by omega)

/-- Octets up to the first that is zero, which ends a tag. -/
def upToZero (octets : Bytes) : Bytes := octets.takeWhile (· ≠ 0)

/-- Reads a handle: an exclamation mark, a name, and another exclamation mark if one
follows. -/
def handle? (c : Cursor) : Option (List Char × Cursor) :=
  match c.rest with
  | '!' :: _ =>
    let (name, c) := readName (c.skip 1)
    match c.rest with
    | '!' :: _ => some ('!' :: name ++ ['!'], c.skip 1)
    | _ => some ('!' :: name, c)
  | _ => none

/-- Whether a handle is complete: it begins and ends with an exclamation mark of its
own. -/
def isHandle (name : List Char) : Bool := 1 < name.length && name.getLast? = some '!'

/-- Reads the handle of a tag and what follows it.  A tag in full has no handle, and so
has a lone exclamation mark. -/
def tagParts? (c : Cursor) : Option (List Char × Bytes × Cursor) :=
  match c.rest with
  | '!' :: '<' :: _ =>
    match readTagChars true (c.skip 2) [] with
    | some (octets, d) =>
      if octets.isEmpty then none
      else
        match d.rest with
        | '>' :: _ => some ([], upToZero octets, d.skip 1)
        | _ => none
    | none => none
  | _ =>
    match handle? c with
    | none => none
    | some (name, d) =>
      if isHandle name then
        match readTagChars false d [] with
        | some (octets, d) => if octets.isEmpty then none else some (name, upToZero octets, d)
        | none => none
      else
        match readTagChars false d (Utf8.encodeChars (name.drop 1)) with
        | some (octets, d) =>
          let octets := upToZero octets
          some (if octets.isEmpty then ([], [0x21], d) else (['!'], octets, d))
        | none => none

/-- Reads a tag, which ends at a gap or, in a flow collection, at the end of an
entry. -/
def readTag (inFlow : Bool) (c : Cursor) : Option (Token × Cursor) :=
  match tagParts? c with
  | some (name, octets, d) =>
    if isGap d.rest || (inFlow && d.rest.head? = some ',') then some (.tag name octets, d)
    else none
  | none => none

/-! ## Directives -/

/-- The most digits of a version number. -/
def maxVersionDigits : Nat := 9

/-- Reads one number of a version. -/
def versionNumber? (c : Cursor) : Option (Nat × Cursor) :=
  let digits := c.rest.takeWhile Char.isDigit
  if digits.isEmpty || maxVersionDigits < digits.length then none
  else some (Text.decimalNumber digits, c.skip digits.length)

/-- Reads a version. -/
def version? (c : Cursor) : Option (Token × Cursor) := do
  let (major, c) ← versionNumber? (c.skipWhile isBlank)
  match c.rest with
  | '.' :: _ =>
    let (minor, c) ← versionNumber? (c.skip 1)
    some (.version major minor, c)
  | _ => none

/-- Reads a handle and what it stands for. -/
def handleDirective? (c : Cursor) : Option (Token × Cursor) := do
  let (name, c) ← handle? (c.skipWhile isBlank)
  if !(isHandle name || name = ['!']) || !(c.rest.head?.map isBlank).getD false then none
  else
    let (octets, c) ← readTagChars true (c.skipWhile isBlank) []
    if octets.isEmpty || !isGap c.rest then none else some (.handle name (upToZero octets), c)

/-- Reads a directive with its line. -/
def readDirective (c : Cursor) : Option (Token × Cursor) := do
  let (name, c) := readName (c.skip 1)
  let (token, c) ←
    if name = "YAML".toList && isGap c.rest then version? c
    else if name = "TAG".toList && isGap c.rest then handleDirective? c
    else none
  some (token, ← c.finishLine?)

end Yaml
end SiteServer
