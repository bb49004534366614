import SiteServer.Http.Parser

/-!
# Responses

A response has a status, a body, and a word on whether the connection stays
open.  A body is either short text of the server's own or the contents of a file.
After a bad request or a fault of the server the connection always closes: what
the parser was left with cannot be trusted for another request.
-/

namespace SiteServer
namespace Http

/-- The statuses the server answers with. -/
inductive Status where
  | ok
  | badRequest
  | forbidden
  | notFound
  | internalError
  deriving DecidableEq, Repr

namespace Status

/-- The number of a status. -/
def code : Status → Nat
  | ok => 200
  | badRequest => 400
  | forbidden => 403
  | notFound => 404
  | internalError => 500

/-- The phrase beside the number. -/
def reason : Status → String
  | ok => "OK"
  | badRequest => "Bad Request"
  | forbidden => "Forbidden"
  | notFound => "Not Found"
  | internalError => "Internal Error"

/-- The text sent with an error, none for success. -/
def page : Status → String
  | ok => ""
  | badRequest => "Your request has bad syntax or is inherently impossible to satisfy.\n"
  | forbidden => "You do not have permission to get file from this server.\n"
  | notFound => "The requested file was not found on this server.\n"
  | internalError => "There was an unusual problem serving the request file.\n"

/-- Whether the connection may stay open after an answer with this status. -/
def mayKeepAlive : Status → Bool
  | badRequest | internalError => false
  | _ => true

end Status

/-- Where a body comes from. -/
inductive Body where
  /-- Text that is sent along with the head. -/
  | inline (text : String)
  /-- The contents of a file, sent after the head. -/
  | file (contents : Bytes)
  deriving DecidableEq, Repr

namespace Body

/-- The octets of a body. -/
def bytes : Body → Bytes
  | inline text => Utf8.encode text
  | file contents => contents

/-- The length of a body in octets. -/
def length (b : Body) : Nat := b.bytes.length

end Body

/-- An answer to a request. -/
structure Response where
  status : Status
  /-- Whether the connection stays open. -/
  keepAlive : Bool
  body : Body
  deriving DecidableEq, Repr

namespace Response

/-- The document sent in the place of an empty file. -/
def blankPage : String := "<html><body></body></html>"

/-- A file, served. -/
def file (contents : Bytes) (keepAlive : Bool) : Response where
  status := .ok
  keepAlive := keepAlive
  body := if contents.isEmpty then .inline blankPage else .file contents

/-- A status with its own text. -/
def error (status : Status) (keepAlive : Bool) : Response where
  status := status
  keepAlive := keepAlive && status.mayKeepAlive
  body := .inline status.page

/-- The answer to a request that could not be read: a fault of the client unless
the parser lost its way. -/
def ofRefusal : Refusal → Response
  | .invalidState => error .internalError false
  | _ => error .badRequest false

/-- The announced length of the body. -/
def contentLength (r : Response) : Nat := r.body.length

/-- The status line, the headers and the empty line. -/
def headText (r : Response) : String :=
  "HTTP/1.1 " ++ toString r.status.code ++ " " ++ r.status.reason ++ "\r\n"
    ++ "Content-Length: " ++ toString r.contentLength ++ "\r\n"
    ++ "Connection: " ++ (if r.keepAlive then "keep-alive" else "close") ++ "\r\n"
    ++ "\r\n"

/-- The first segment sent: the head, and a body of text with it. -/
def head (r : Response) : Bytes :=
  Utf8.encode r.headText ++
    match r.body with
    | .inline text => Utf8.encode text
    | .file _ => []

/-- The second segment sent: the contents of a file. -/
def attachment? (r : Response) : Option Bytes :=
  match r.body with
  | .inline _ => none
  | .file contents => some contents

/-- Everything a client is sent. -/
def encode (r : Response) : Bytes := r.head ++ r.attachment?.getD []

end Response
end Http
end SiteServer
