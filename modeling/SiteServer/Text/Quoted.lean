import SiteServer.Text.Printable

/-!
# Quoted text

Error messages show what a client or a user wrote between double quotes, so that
blanks and control characters can be seen.  A double quote and a backslash are
escaped, five control characters have short escapes, and every other character
that has no shape, or that would be drawn on top of its neighbour, is written by
its code point.  A single quote is left alone.
-/

namespace SiteServer
namespace Text
namespace Quoted

/-- The digits of `n` in lower-case hexadecimal, without leading zeros. -/
def hexDigits (n : Nat) : List Char := Nat.toDigits 16 n

/-- A character written by its code point. -/
def codePoint (c : Char) : List Char := ['\\', 'u', '\x7b'] ++ hexDigits c.toNat ++ ['\x7d']

/-- How one character is shown between the quotes. -/
def escape (c : Char) : List Char :=
  if c = '\x00' then ['\\', '0']
  else if c = '\t' then ['\\', 't']
  else if c = '\r' then ['\\', 'r']
  else if c = '\n' then ['\\', 'n']
  else if c = '\\' then ['\\', '\\']
  else if c = '"' then ['\\', '"']
  else if extendsGrapheme c then codePoint c
  else if isPrintable c then [c]
  else codePoint c

/-- The text between double quotes. -/
def quote (text : String) : String :=
  String.ofList ('"' :: text.toList.flatMap escape ++ ['"'])

end Quoted
end Text
end SiteServer
