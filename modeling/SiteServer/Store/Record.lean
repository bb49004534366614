import SiteServer.Store.Fault
import SiteServer.Text.Utf8
import SiteServer.Text.Words

/-!
# Credential records

A credential file holds one record a line, a name and a password with a tab
between them.  A field is never empty and holds no tab and no end of line, so that
a record that is written is one line and reads back.  The reader is more generous:
it passes over empty lines and lines without a tab, takes a carriage return off
the end of a line, and does without the last line's ending.
-/

namespace SiteServer
namespace Store

/-- A name and its password. -/
abbrev Row := String × String

namespace Record

/-- Whether a character would break a record. -/
def isBreaking (c : Char) : Bool := c = '\t' || c = '\r' || c = '\n'

/-- Whether a field can be written. -/
def isField (value : String) : Bool :=
  !value.toList.isEmpty && !value.toList.any isBreaking

/-- Refuses a field that cannot be written. -/
def check (value : String) : Except Fault Unit :=
  if isField value then .ok () else .error (.invalidField value)

/-- A record, written. -/
def encode (user password : String) : Bytes :=
  Utf8.encode (user ++ "\t" ++ password ++ "\n")

/-- Takes one carriage return off the end of a line. -/
def dropReturn (line : Bytes) : Bytes :=
  if line.getLast? = some Bytes.cr then line.dropLast else line

/-- The lines of a file.  The last piece is a line only if something is in it, and
it keeps a carriage return, which nothing has ended. -/
def linesOf : List Bytes → List Bytes
  | [] => []
  | [last] => if last.isEmpty then [] else [last]
  | line :: rest => dropReturn line :: linesOf rest

/-- The lines of a file. -/
def lines (contents : Bytes) : List Bytes := linesOf (Text.split (· = Bytes.lf) contents)

/-- What one line of text holds: a record, or nothing. -/
def ofLine? (line : List Char) : Option Row :=
  (Text.splitOnce? (· = '\t') line).map fun (user, password) =>
    (String.ofList user, String.ofList password)

/-- The records of a file, in order.  A line that is no text spoils the file. -/
def readLines : List Bytes → Except Fault (List Row)
  | [] => .ok []
  | line :: rest =>
    match Utf8.decodeChars line with
    | none => .error (.files .notText)
    | some text =>
      match readLines rest with
      | .error f => .error f
      | .ok rows => .ok ((ofLine? text).toList ++ rows)

/-- The records of a file, in order. -/
def readAll (contents : Bytes) : Except Fault (List Row) := readLines (lines contents)

end Record
end Store
end SiteServer
