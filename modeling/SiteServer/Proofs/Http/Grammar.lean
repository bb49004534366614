import Mathlib.Control.Monad.Basic
import SiteServer.Proofs.Http.Lines

/-!
# Which octets are a request

`Message.Describes` says, without mentioning the parser, when octets that are put together
as lines and a body are a request, and which one.  `parse_complete_iff` shows that the
parser takes a request from its buffer if and only if the octets in front are such a
message, and that it hands out the request that they describe.

So lines that are not understood, or not in their place, are never passed over, and nothing
that is a request is refused.  If a line is repeated, the last host and the last length
count, and one line that asks to keep the connection open is enough.
-/

namespace SiteServer
namespace Http

/-- The message is a request, and it is this one. -/
structure Message.Describes (d : Dialect) (m : Message) (request : Request) : Prop where
  lines : ∀ line ∈ m.start :: m.headers, IsLine line
  headers_ne_nil : ∀ line ∈ m.headers, line ≠ []
  start : IsRequestLine d m.start request.method request.path.toList request.version.toList
  readable : ∀ line ∈ m.headers, IsReadable line
  host : LastOf (IsField "Host:") m.headers (request.host.map String.toList)
  /-- The last length counts, and without one there is no body. -/
  contentLength : ∃ announced, LastOf Announces m.headers announced ∧
    request.contentLength = announced.getD 0
  keepAlive : request.keepAlive = true ↔ ∃ line ∈ m.headers, AsksToStay line
  body_length : m.body.length = request.contentLength
  body : request.body = m.body

namespace Parser

open ReceiveBuffer

variable {d : Dialect} {request : Request}

theorem any_asksToStay_iff {headers : List (List Char)} :
    headers.any asksToStay = true ↔ ∃ line ∈ headers, AsksToStay line := by
  simp only [List.any_eq_true, asksToStay_iff]

/-- The request that is handed out is the one that the lines and the body describe. -/
theorem describes_iff {m : Message} :
    m.Describes d request ↔
      (∀ line ∈ m.start :: m.headers, IsLine line) ∧
      ∃ p q, fresh.requestLine d m.start = (.ok (), p) ∧
        headerLines { p with state := .headers } m.headers = some q ∧
        m.body.length = q.contentLength ∧ request = (q.finish m.body).1 := by
  have hhost : ∀ line value, fieldValue? "Host:" line = some value ↔ IsField "Host:" line value :=
    fun _ _ => fieldValue?_eq_some_iff
  have hlength : ∀ line n, announced? line = some n ↔ Announces line n :=
    fun _ _ => announced?_eq_some_iff
  constructor
  · intro h
    obtain ⟨announced, hannounced, hcount⟩ := h.contentLength
    rw [lastOf_iff hlength] at hannounced
    have hfound := (lastOf_iff hhost).mp h.host
    refine ⟨h.lines, _, _, requestLine_eq_ok_iff.mpr ⟨_, _, _, h.start, rfl⟩,
      headerLines_eq_some_iff.mpr
        ⟨fun line hline => ⟨h.headers_ne_nil line hline, h.readable line hline⟩, rfl⟩, ?_, ?_⟩
    · rw [foldl_told, hannounced]
      exact h.body_length.trans hcount
    · have hstay : request.keepAlive = m.headers.any asksToStay := by
        rw [Bool.eq_iff_iff, h.keepAlive, any_asksToStay_iff]
      rw [foldl_told, hannounced, hfound]
      obtain ⟨method, path, version, host, contentLength, keepAlive, body⟩ := request
      simp only [finish, fresh, Option.getD_some, Option.or_none, Option.map_map,
        Bool.false_or, Request.mk.injEq, true_and, String.ofList_toList]
      exact ⟨by cases host <;> simp, hcount, hstay, h.body⟩
  · rintro ⟨hlines, p, q, hread, hheaders, hbody, rfl⟩
    obtain ⟨method, path, version, hstart, rfl⟩ := requestLine_eq_ok_iff.mp hread
    obtain ⟨hall, rfl⟩ := headerLines_eq_some_iff.mp hheaders
    rw [foldl_told] at hbody ⊢
    refine ⟨hlines, fun line hline => (hall line hline).1, ?_,
      fun line hline => (hall line hline).2, ?_, ?_, ?_, hbody, rfl⟩
    · simp only [finish, Option.getD_some, String.toList_ofList]
      exact hstart
    · rw [lastOf_iff hhost]
      simp only [finish, fresh, Option.or_none, Option.map_map]
      cases lastOf? (fieldValue? "Host:") m.headers <;> simp
    · exact ⟨_, lastOf_lastOf? hlength m.headers, rfl⟩
    · simp only [finish, fresh, Bool.false_or]
      exact any_asksToStay_iff

/-- **The parser accepts exactly its grammar.**  A fresh parser takes a request from a buffer
that can hold the octets, and the scanner then stands at `k`, if and only if the first `k`
octets are a message that describes this request. -/
theorem parse_complete_iff (d : Dialect) (capacity : Nat) (octets : Bytes)
    (hfits : octets.length ≤ capacity) (request : Request) (k : Nat) :
    (∃ p b, parse d fresh ((ofCapacity capacity).extend octets)
        = (.ok (.complete request), p, b) ∧ b.checked = k) ↔
      ∃ (m : Message) (rest : Bytes),
        octets = m.octets ++ rest ∧ m.octets.length = k ∧ m.Describes d request := by
  rw [parse_fresh_iff hfits]
  constructor
  · rintro ⟨m, rest, p, q, hoctets, hk, hlines, hstart, hheaders, hbody, hrequest⟩
    exact ⟨m, rest, hoctets, hk,
      describes_iff.mpr ⟨hlines, p, q, hstart, hheaders, hbody, hrequest⟩⟩
  · rintro ⟨m, rest, hoctets, hk, hdescribes⟩
    obtain ⟨hlines, p, q, hstart, hheaders, hbody, hrequest⟩ := describes_iff.mp hdescribes
    exact ⟨m, rest, p, q, hoctets, hk, hlines, hstart, hheaders, hbody, hrequest⟩

/-- A request with two lengths, of which the second counts, and an octet behind it. -/
theorem parse_complete_iff_of_two_lengths :
    let d : Dialect := ⟨"a", fun _ => none⟩
    let octets := Utf8.encode
      "post /x\tHTTP/1.1\r\nContent-Length: 9\r\ncontent-length:+2\r\n\r\nabc"
    octets.length ≤ 99 ∧ ∃ (m : Message) (rest : Bytes),
      octets = m.octets ++ rest ∧ m.octets.length = 60 ∧
        m.Describes d ⟨.post, "/x", "HTTP/1.1", none, 2, false, [97, 98]⟩ := by
  intro d octets
  have hfits : octets.length ≤ 99 := by decide +kernel
  have hanswer : (parse d fresh ((ofCapacity 99).extend octets)).1
      = .ok (.complete ⟨.post, "/x", "HTTP/1.1", none, 2, false, [97, 98]⟩) := by
    decide +kernel
  have hchecked : (parse d fresh ((ofCapacity 99).extend octets)).2.2.checked = 60 := by
    decide +kernel
  exact ⟨hfits, (parse_complete_iff d 99 octets hfits _ 60).mp
    ⟨_, _, Prod.ext hanswer rfl, hchecked⟩⟩

end Parser
end Http
end SiteServer
