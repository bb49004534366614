import SiteServer.Text.Utf8
import SiteServer.Text.Words

/-!
# Requests

A request as the rest of the server sees it, and a draft of one for code that
makes requests without reading them from a socket.
-/

namespace SiteServer
namespace Http

/-- The methods the server answers. -/
inductive Method where
  | get
  | post
  deriving DecidableEq, Repr, Inhabited

namespace Method

/-- The name of a method on the wire. -/
def name : Method → String
  | get => "GET"
  | post => "POST"

/-- The method with this name, in any case. -/
def ofName? (name : List Char) : Option Method :=
  if Text.eqIgnoreCase name "GET".toList then some get
  else if Text.eqIgnoreCase name "POST".toList then some post
  else none

end Method

/-- A complete request. -/
structure Request where
  method : Method
  /-- The path with its query, a bare `/` already replaced by the landing page. -/
  path : String
  version : String
  host : Option String
  /-- The announced length of the body, zero if none was announced. -/
  contentLength : Nat
  keepAlive : Bool
  body : Bytes
  deriving DecidableEq, Repr

namespace Request

/-- What comes after the last slash of the path. -/
def lastSegment (r : Request) : List Char := Text.afterLast (· = '/') r.path.toList

/-- The body as text, if it is text. -/
def bodyText? (r : Request) : Option (List Char) := Utf8.decodeChars r.body

end Request

/-- A request in the making. -/
structure Draft where
  method : Method := .get
  path : Option String := none
  version : Option String := none
  host : Option String := none
  keepAlive : Bool := false
  body : Bytes := []

/-- Why a draft is no request yet. -/
inductive DraftFault where
  | pathMissing
  deriving DecidableEq, Repr

/-- The wording of a fault in a draft. -/
def DraftFault.message : DraftFault → String
  | pathMissing => "path missing"

/-- Finishes a draft.  The announced length is the length of the body. -/
def Draft.build (d : Draft) : Except DraftFault Request :=
  match d.path with
  | none => .error .pathMissing
  | some path =>
    .ok {
      method := d.method
      path := path
      version := d.version.getD "HTTP/1.1"
      host := d.host
      contentLength := d.body.length
      keepAlive := d.keepAlive
      body := d.body }

end Http
end SiteServer
