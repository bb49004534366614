import SiteServer.Http.Line
import SiteServer.Http.Request
import SiteServer.Http.Target
import SiteServer.Text.Quoted
import SiteServer.Text.Unsigned

/-!
# Reading requests

A request is a request line, header lines up to an empty one, and a body of the
length the headers announced.  The parser takes what the receive buffer holds,
line by line, and keeps what it has learned between calls, so that a request may
arrive in any number of pieces.

`Parser.advance` is one turn of the parser: a line, or the body.  `Parser.parse`
takes turns until there is something to say.  Each turn that does not end the
call has moved the buffer's scanner by at least two octets, which is why the turns
come to an end.
-/

namespace SiteServer
namespace Http

/-- The page served for a bare `/` unless it is configured. -/
def usualLanding : String := "judge.html"

/-- Why a request was refused. -/
inductive Refusal where
  | malformedLine
  | notUtf8
  | invalidRequest
  | invalidMethod (name : String)
  | invalidVersion (version : String)
  | invalidTarget (target : String)
  | invalidContentLength (value : String)
  /-- The announced body does not fit into what is left of the buffer. -/
  | bodyTooLarge (length available : Nat)
  /-- A line came where none is read.  This is the server's own fault. -/
  | invalidState
  deriving DecidableEq, Repr

namespace Refusal

/-- The wording of a refusal. -/
def message : Refusal → String
  | malformedLine => "malformed line framing"
  | notUtf8 => "request contains non UTF-8 bytes"
  | invalidRequest => "invalid request line"
  | invalidMethod name => "unsupported method " ++ Text.Quoted.quote name
  | invalidVersion version => "unsupported HTTP version " ++ Text.Quoted.quote version
  | invalidTarget target => "invalid request target " ++ Text.Quoted.quote target
  | invalidContentLength value => "invalid Content-Length " ++ Text.Quoted.quote value
  | bodyTooLarge length available =>
    "body of " ++ toString length ++ " bytes cannot fit in " ++ toString available
      ++ " remaining bytes"
  | invalidState => "parser reached an unexpected state"

end Refusal

/-- What the parser reads next. -/
inductive Phase where
  | requestLine
  | headers
  | body
  deriving DecidableEq, Repr, Inhabited

/-- What can be said after taking all that has arrived. -/
inductive Progress where
  /-- More octets are needed. -/
  | incomplete
  | complete (request : Request)
  deriving DecidableEq, Repr

/-- What the parser has learned about the request it is reading. -/
structure Parser where
  state : Phase := .requestLine
  method : Method := .get
  path : Option String := none
  version : Option String := none
  host : Option String := none
  contentLength : Nat := 0
  keepAlive : Bool := false
  deriving DecidableEq, Repr

/-- The outside of a parser: the page that stands for a bare `/`, and how web
addresses are read. -/
structure Dialect where
  landing : String
  address : List Char → Option Url.Parts

namespace Parser

/-- A parser that has read nothing. -/
def fresh : Parser := {}

/-- The value of a header line, if the line begins with `name`, in any case.
Blanks around the value are dropped. -/
def fieldValue? (name : String) (line : List Char) : Option (List Char) :=
  (Text.afterIgnoreCase? name.toList line).map (Text.trim Text.isBlank)

/-- Reads the request line.  What was understood before an error stays. -/
def requestLine (p : Parser) (d : Dialect) (line : List Char) : Except Refusal Unit × Parser :=
  match Text.words Text.isBlank line with
  | [method, target, version] =>
    match Method.ofName? method with
    | none => (.error (.invalidMethod (String.ofList method)), p)
    | some m =>
      let p := { p with method := m }
      if Text.eqIgnoreCase version "HTTP/1.1".toList then
        match Target.originForm? d.address target with
        | none => (.error (.invalidTarget (String.ofList target)), p)
        | some path =>
          let path := if path = ['/'] then path ++ d.landing.toList else path
          (.ok (), { p with
            path := some (String.ofList path), version := some (String.ofList version) })
      else (.error (.invalidVersion (String.ofList version)), p)
  | _ => (.error .invalidRequest, p)

/-- What a header line leads to. -/
inductive HeaderEffect where
  | more
  | body
  | done
  deriving DecidableEq, Repr

/-- Reads a header line, or the empty line after the headers.  `available` is the
room for a body: what the buffer can hold beyond this line. -/
def headerLine (p : Parser) (line : List Char) (available : Nat) :
    Except Refusal HeaderEffect × Parser :=
  if line = [] then
    if p.contentLength = 0 then (.ok .done, p)
    else if available < p.contentLength then
      (.error (.bodyTooLarge p.contentLength available), p)
    else (.ok .body, p)
  else
    match fieldValue? "Connection:" line with
    | some value =>
      if Text.eqIgnoreCase value "keep-alive".toList then (.ok .more, { p with keepAlive := true })
      else (.ok .more, p)
    | none =>
      match fieldValue? "Content-Length:" line with
      | some value =>
        match Text.readUnsigned Text.max64 value with
        | .ok n => (.ok .more, { p with contentLength := n })
        | .error _ => (.error (.invalidContentLength (String.ofList value)), p)
      | none =>
        match fieldValue? "Host:" line with
        | some value => (.ok .more, { p with host := some (String.ofList value) })
        | none => (.ok .more, p)

/-- Hands out the request.  Path, version and host go with it; everything else
stays as it is until the parser is made fresh. -/
def finish (p : Parser) (body : Bytes) : Request × Parser :=
  ({ method := p.method
     path := p.path.getD ""
     version := p.version.getD ""
     host := p.host
     contentLength := p.contentLength
     keepAlive := p.keepAlive
     body := body },
   { p with path := none, version := none, host := none })

/-- What one turn of the parser comes to. -/
inductive Turn where
  /-- The call is over with this answer. -/
  | stop (answer : Except Refusal Progress)
  /-- There may be more to read. -/
  | again

/-- The turn of a parser that waits for a body. -/
def bodyTurn (p : Parser) (b : ReceiveBuffer) : Turn × Parser × ReceiveBuffer :=
  let stop := b.checked + p.contentLength
  if b.size < stop then (.stop (.ok .incomplete), p, b)
  else
    let (request, p') := p.finish (b.slice b.checked stop)
    (.stop (.ok (.complete request)), p', { b with checked := stop, lineBegin := stop })

/-- The turn of a parser that waits for a line, given the octets of that line. -/
def lineTurn (p : Parser) (d : Dialect) (line : Bytes) (b : ReceiveBuffer) : Turn × Parser :=
  match Utf8.decodeChars line with
  | none => (.stop (.error .notUtf8), p)
  | some text =>
    match p.state with
    | .requestLine =>
      match p.requestLine d text with
      | (.error e, p) => (.stop (.error e), p)
      | (.ok (), p) => (.again, { p with state := .headers })
    | .headers =>
      match p.headerLine text (b.capacity - b.checked) with
      | (.error e, p) => (.stop (.error e), p)
      | (.ok .more, p) => (.again, p)
      | (.ok .body, p) => (.again, { p with state := .body })
      | (.ok .done, p) =>
        let (request, p) := p.finish []
        (.stop (.ok (.complete request)), p)
    | .body => (.stop (.error .invalidState), p)

/-- One turn: the body if the parser waits for it, else the next line. -/
def advance (d : Dialect) (p : Parser) (b : ReceiveBuffer) : Turn × Parser × ReceiveBuffer :=
  if p.state = .body then bodyTurn p b
  else
    match b.nextLine with
    | (.incomplete, b) => (.stop (.ok .incomplete), p, b)
    | (.malformed, b) => (.stop (.error .malformedLine), p, b)
    | (.complete start stop, b) =>
      let b := b.beginLine
      let (turn, p) := lineTurn p d (b.slice start stop) b
      (turn, p, b)

/-- A turn that does not end the call has used up a line. -/
theorem advance_again {d : Dialect} {p p' : Parser} {b b' : ReceiveBuffer}
    (h : advance d p b = (.again, p', b')) :
    b.checked + 2 ≤ b'.checked ∧ b'.checked ≤ b.size ∧ b'.data = b.data := by
  unfold advance at h
  split at h
  · unfold bodyTurn at h
    dsimp only at h
    split at h <;> cases h
  · split at h
    · cases h
    · cases h
    case h_3 start stop b1 hs =>
      have := ReceiveBuffer.scan_complete hs
      cases hl : lineTurn p d (b1.beginLine.slice start stop) b1.beginLine with
      | mk turn q =>
        simp only [hl] at h
        cases h
        obtain ⟨-, h2, h3, h4, h5⟩ := this
        refine ⟨?_, h4, ?_⟩
        · show b.checked + 2 ≤ b1.checked
          omega
        · show b1.data = b.data
          rw [h5]

/-- Takes everything the buffer holds and says what can be said. -/
def parse (d : Dialect) (p : Parser) (b : ReceiveBuffer) :
    Except Refusal Progress × Parser × ReceiveBuffer :=
  match _h : advance d p b with
  | (.stop answer, p', b') => (answer, p', b')
  | (.again, p', b') => parse d p' b'
termination_by b.size - b.checked
decreasing_by
  have := advance_again _h
  simp only [ReceiveBuffer.size] at *
  rw [this.2.2]
  omega

end Parser
end Http
end SiteServer
