/-!
# Octets

Everything that crosses the edge of the server, a socket, a file, a name in a
directory, is a list of octets.  Text is made from octets by decoding and turned
back by encoding (`SiteServer.Text.Utf8`), so that a byte that is no text is
never mistaken for a character.
-/

namespace SiteServer

/-- A string of octets. -/
abbrev Bytes := List UInt8

namespace Bytes

/-- Carriage return. -/
def cr : UInt8 := 13

/-- Line feed. -/
def lf : UInt8 := 10

/-- The end of a line on the wire. -/
def crlf : Bytes := [cr, lf]

end Bytes
end SiteServer
