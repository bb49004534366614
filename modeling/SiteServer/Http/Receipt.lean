import SiteServer.Http.Parser
import SiteServer.Http.Reply
import SiteServer.Http.Response

/-!
# Responses taken off a stream

A client of a connection that stays open sees octets and no boundaries.  It reads up to the
first empty line, learns from the head how long the body is, takes so many of the octets that
follow, and begins again behind them.  `Receipt.next?` is one such step and `Receipt.all?` all
of them together.

The client is strict: it gives up at a head that is no text, at a first line that is no status
line, at a length that is not written in decimal digits, and at a body that is cut off.
-/

namespace SiteServer
namespace Http

/-- What a client knows of a response. -/
structure Receipt where
  code : Nat
  reason : String
  /-- Whether the server keeps the connection open. -/
  keepAlive : Bool
  body : Bytes
  deriving DecidableEq, Repr

namespace Receipt

/-- What there is to know of a response that is sent. -/
def ofResponse (r : Response) : Receipt where
  code := r.status.code
  reason := r.status.reason
  keepAlive := r.keepAlive
  body := r.body.bytes

/-- What a head says of the response it begins. -/
structure Summary where
  code : Nat
  reason : String
  keepAlive : Bool
  length : Nat
  deriving DecidableEq, Repr

/-- The lines of a head, without their ends. -/
def lines (text : List Char) : List (List Char) :=
  (Text.split (· = '\n') text).map (Text.trim (· = '\r'))

/-- The number and the phrase on a status line. -/
def status? (line : List Char) : Option (Nat × String) := do
  let (version, rest) ← Text.splitOnce? (· = ' ') line
  let (code, reason) ← Text.splitOnce? (· = ' ') rest
  let code ← Text.decimal? code
  if version = "HTTP/1.1".toList then some (code, String.ofList reason) else none

/-- Whether the connection stays open, in the words of the server. -/
def stays? (value : List Char) : Option Bool :=
  if value = "keep-alive".toList then some true
  else if value = "close".toList then some false
  else none

/-- Reads a head. -/
def summary? (head : Bytes) : Option Summary := do
  let text ← Utf8.decodeChars head
  match lines text with
  | [] => none
  | first :: fields =>
    let (code, reason) ← status? first
    let length ← (fields.findSome? (Parser.fieldValue? "Content-Length:")).bind Text.decimal?
    let keepAlive ← (fields.findSome? (Parser.fieldValue? "Connection:")).bind stays?
    some ⟨code, reason, keepAlive, length⟩

/-- Reads one response, if all of it is there, and tells what follows it. -/
def next? (received : Bytes) : Option (Receipt × Bytes) := do
  let (head, rest) ← Reply.cutHead? received
  let said ← summary? head
  if said.length ≤ rest.length then
    some (⟨said.code, said.reason, said.keepAlive, rest.take said.length⟩, rest.drop said.length)
  else none

theorem length_lt_of_cutHead? {received head rest : Bytes}
    (h : Reply.cutHead? received = some (head, rest)) : rest.length < received.length := by
  induction received generalizing head with
  | nil => cases h
  | cons b received ih =>
    rw [Reply.cutHead?] at h
    split at h
    case isTrue =>
      cases h
      rw [List.length_drop, List.length_cons]
      exact Nat.sub_lt (Nat.succ_pos _) (by decide)
    case isFalse =>
      obtain ⟨⟨head', rest'⟩, hcut, hrest⟩ := Option.map_eq_some_iff.mp h
      cases hrest
      exact Nat.lt_succ_of_lt (ih hcut)

/-- What follows a response is shorter by its head at least. -/
theorem length_lt_of_next? {received rest : Bytes} {receipt : Receipt}
    (h : next? received = some (receipt, rest)) : rest.length < received.length := by
  unfold next? at h
  obtain ⟨⟨head, later⟩, hcut, h⟩ := Option.bind_eq_some_iff.mp h
  obtain ⟨said, -, h⟩ := Option.bind_eq_some_iff.mp h
  split at h
  case isTrue =>
    cases h
    rw [List.length_drop]
    exact Nat.lt_of_le_of_lt (Nat.sub_le _ _) (length_lt_of_cutHead? hcut)
  case isFalse => cases h

/-- Reads responses as long as there is anything to read.  Nothing may be left over. -/
def all? (received : Bytes) : Option (List Receipt) :=
  if received = [] then some []
  else
    match _h : next? received with
    | none => none
    | some (receipt, rest) => (all? rest).map (receipt :: ·)
termination_by received.length
decreasing_by exact length_lt_of_next? _h

theorem all?_of_next? {received rest : Bytes} {receipt : Receipt}
    (h : next? received = some (receipt, rest)) :
    all? received = (all? rest).map (receipt :: ·) := by
  have hne : received ≠ [] := by
    rintro rfl
    cases h
  rw [all?, if_neg hne]
  split
  case h_1 hnone =>
    rw [h] at hnone
    cases hnone
  case h_2 hsome =>
    rw [h] at hsome
    cases hsome
    rfl

end Receipt
end Http
end SiteServer
