import SiteServer.Http.Receipt
import SiteServer.Proofs.Http.Lines

/-!
# Heads that are read back

The head of a response is three lines and an empty one.  None of the three is empty or holds a
carriage return, so that the first empty line a client finds ends the head, whatever the body
looks like; and each of them reads back as what was written on it.

* `Response.encode_headText`: the octets of a head, line by line.
* `Reply.cutHead?_lines`: such octets are cut off where they end.
* `Receipt.summary?_headText`: what the client learns from the head.
* `Receipt.next?_encode_append`: a response reads back, and what follows it is left over.
-/

namespace SiteServer
namespace Http

/-! ## The lines of a head -/

namespace Response

variable {r : Response}

/-- The first line. -/
def statusLine (r : Response) : List Char :=
  "HTTP/1.1".toList ++ ' ' :: ((toString r.status.code).toList ++ ' ' :: r.status.reason.toList)

/-- The word on whether the connection stays open. -/
def stayWord (keepAlive : Bool) : List Char :=
  (if keepAlive then "keep-alive" else "close").toList

/-- The lines after the first one. -/
def fields (r : Response) : List (List Char) :=
  ["Content-Length:".toList ++ ' ' :: (toString r.contentLength).toList,
    "Connection:".toList ++ ' ' :: stayWord r.keepAlive]

theorem headText_toList (r : Response) :
    r.headText.toList =
      (r.statusLine :: r.fields).flatMap (· ++ ['\r', '\n']) ++ ['\r', '\n'] := by
  have hversion : "HTTP/1.1 ".toList = "HTTP/1.1".toList ++ [' '] := by decide
  have hlength : "Content-Length: ".toList = "Content-Length:".toList ++ [' '] := by decide
  have hconnection : "Connection: ".toList = "Connection:".toList ++ [' '] := by decide
  have hspace : " ".toList = [' '] := by decide
  have hend : "\r\n".toList = ['\r', '\n'] := by decide
  unfold headText statusLine fields stayWord
  simp only [String.toList_append, hversion, hlength, hconnection, hspace, hend,
    List.flatMap_cons, List.flatMap_nil, List.append_assoc, List.cons_append, List.nil_append]

/-- No line is empty or holds the end of a line. -/
theorem breakless_of_mem_lines {line : List Char} (h : line ∈ r.statusLine :: r.fields) :
    line ≠ [] ∧ ∀ c, c = '\r' ∨ c = '\n' → c ∉ line := by
  have hne : ∀ {front back : List Char} {c : Char}, front ++ c :: back ≠ [] :=
    List.append_ne_nil_of_right_ne_nil _ (List.cons_ne_nil _ _)
  simp only [fields, List.mem_cons, List.not_mem_nil, or_false] at h
  refine ⟨by rcases h with rfl | rfl | rfl <;> exact hne, fun c hc => ?_⟩
  have hspace : c ≠ ' ' := by rcases hc with rfl | rfl <;> decide
  have hdigits : ∀ n : Nat, c ∉ (toString n).toList :=
    Text.not_mem_toString (by rcases hc with rfl | rfl <;> rfl)
  have hnames : c ∉ "HTTP/1.1".toList ∧ c ∉ "Content-Length:".toList ∧
      c ∉ "Connection:".toList := by
    rcases hc with rfl | rfl <;> decide
  have hreason : c ∉ r.status.reason.toList := by
    rcases hc with rfl | rfl <;> cases r.status <;> decide
  have hword : c ∉ stayWord r.keepAlive := by
    rcases hc with rfl | rfl <;> cases r.keepAlive <;> decide
  unfold statusLine at h
  rcases h with rfl | rfl | rfl <;> simp only [List.mem_append, List.mem_cons, not_or]
  · exact ⟨hnames.1, hspace, hdigits _, hspace, hreason⟩
  · exact ⟨hnames.2.1, hspace, hdigits _⟩
  · exact ⟨hnames.2.2, hspace, hword⟩

theorem encode_headText (r : Response) :
    Utf8.encode r.headText =
      ((r.statusLine :: r.fields).map Utf8.encodeChars).flatMap (· ++ Bytes.crlf)
        ++ Bytes.crlf := by
  have hend : Utf8.encodeChars ['\r', '\n'] = Bytes.crlf := by decide
  rw [Utf8.encode, headText_toList, Utf8.encodeChars_append, hend, Utf8.encodeChars,
    List.flatMap_assoc, List.flatMap_map]
  congr 2
  funext line
  rw [← Utf8.encodeChars, Utf8.encodeChars_append, hend]

theorem breakless_of_mem_octets {line : Bytes}
    (h : line ∈ (r.statusLine :: r.fields).map Utf8.encodeChars) :
    line ≠ [] ∧ Bytes.cr ∉ line := by
  obtain ⟨text, htext, rfl⟩ := List.mem_map.mp h
  obtain ⟨hne, hfree⟩ := breakless_of_mem_lines htext
  exact ⟨Utf8.encodeChars_ne_nil hne,
    Utf8.not_mem_encodeChars (c := '\r') (by decide) (hfree _ (Or.inl rfl))⟩

theorem encode_eq (r : Response) : r.encode = Utf8.encode r.headText ++ r.body.bytes := by
  unfold encode head attachment?
  cases r.body with
  | inline text => exact List.append_nil _
  | file contents => exact congrArg (· ++ contents) (List.append_nil _)

end Response

/-! ## Cutting behind the head -/

namespace Reply

variable {line rest : Bytes}

theorem cutHead?_cons {b : UInt8} (hb : b ≠ Bytes.cr) (rest : Bytes) :
    cutHead? (b :: rest) = (cutHead? rest).map fun (head, body) => (b :: head, body) := by
  have hother : headEnd.isPrefixOf (b :: rest) = false := by
    rw [headEnd, Bytes.crlf, List.cons_append, List.isPrefixOf_cons_cons,
      beq_false_of_ne (Ne.symm hb), Bool.false_and]
  rw [cutHead?, hother, if_neg Bool.false_ne_true]

/-- No head ends within a line. -/
theorem cutHead?_append (hline : Bytes.cr ∉ line) (rest : Bytes) :
    cutHead? (line ++ rest) = (cutHead? rest).map fun (head, body) => (line ++ head, body) := by
  induction line with
  | nil => exact Option.map_id'.symm
  | cons b line ih =>
    rw [List.mem_cons, not_or] at hline
    rw [List.cons_append, cutHead?_cons (Ne.symm hline.1), ih hline.2, Option.map_map]
    rfl

theorem cutHead?_crlf_append (hne : line ≠ []) (hline : Bytes.cr ∉ line) (rest : Bytes) :
    cutHead? (Bytes.crlf ++ (line ++ rest)) =
      (cutHead? (line ++ rest)).map fun (head, body) => (Bytes.crlf ++ head, body) := by
  obtain ⟨b, line, rfl⟩ := List.exists_cons_of_ne_nil hne
  rw [List.mem_cons, not_or] at hline
  have hother : headEnd.isPrefixOf (Bytes.crlf ++ (b :: line ++ rest)) = false := by
    have hb := beq_false_of_ne hline.1
    simp [headEnd, Bytes.crlf, List.isPrefixOf, hb]
  rw [Bytes.crlf, List.cons_append, cutHead?, ← List.cons_append, ← Bytes.crlf, hother,
    if_neg Bool.false_ne_true, List.singleton_append, cutHead?_cons (by decide), Option.map_map]
  rfl

theorem cutHead?_headEnd (rest : Bytes) : cutHead? (headEnd ++ rest) = some (headEnd, rest) := by
  have hhere : headEnd.isPrefixOf (headEnd ++ rest) = true :=
    List.isPrefixOf_iff_prefix.mpr (List.prefix_append _ _)
  have hcons : headEnd ++ rest = Bytes.cr :: (headEnd.tail ++ rest) := rfl
  rw [hcons, cutHead?, ← hcons, hhere, if_pos rfl, List.drop_left]

/-- Behind the end of a line come more lines, each with an end, and the empty line. -/
theorem cutHead?_crlf_lines {lines : List Bytes}
    (hlines : ∀ line ∈ lines, line ≠ [] ∧ Bytes.cr ∉ line) (rest : Bytes) :
    cutHead? (Bytes.crlf ++ (lines.flatMap (· ++ Bytes.crlf) ++ Bytes.crlf ++ rest)) =
      some (Bytes.crlf ++ (lines.flatMap (· ++ Bytes.crlf) ++ Bytes.crlf), rest) := by
  induction lines with
  | nil => exact cutHead?_headEnd rest
  | cons line lines ih =>
    rw [List.forall_mem_cons] at hlines
    obtain ⟨⟨hne, hline⟩, hlines⟩ := hlines
    have hgroup : ∀ more, (line :: lines).flatMap (· ++ Bytes.crlf) ++ Bytes.crlf ++ more =
        line ++ (Bytes.crlf ++ (lines.flatMap (· ++ Bytes.crlf) ++ Bytes.crlf ++ more)) := by
      intro more
      simp only [List.flatMap_cons, List.append_assoc]
    have hhead := hgroup []
    rw [List.append_nil, List.append_nil] at hhead
    rw [hgroup, cutHead?_crlf_append hne hline, cutHead?_append hline, ih hlines, hhead]
    rfl

/-- Lines that are ended, and the empty line behind them, are cut off. -/
theorem cutHead?_lines {first : Bytes} {lines : List Bytes}
    (hlines : ∀ line ∈ first :: lines, line ≠ [] ∧ Bytes.cr ∉ line) (rest : Bytes) :
    cutHead? ((first :: lines).flatMap (· ++ Bytes.crlf) ++ Bytes.crlf ++ rest) =
      some ((first :: lines).flatMap (· ++ Bytes.crlf) ++ Bytes.crlf, rest) := by
  rw [List.forall_mem_cons] at hlines
  simp only [List.flatMap_cons, List.append_assoc]
  rw [cutHead?_append hlines.1.2, ← List.append_assoc (lines.flatMap _),
    cutHead?_crlf_lines hlines.2]
  simp only [Option.map_some]

end Reply

/-! ## Reading the head -/

namespace Receipt

variable {r : Response}

/-- Lines that are ended, and the empty line behind them, come apart again. -/
theorem lines_flatMap {lines : List (List Char)}
    (hlines : ∀ line ∈ lines, ∀ c, c = '\r' ∨ c = '\n' → c ∉ line) :
    Receipt.lines (lines.flatMap (· ++ ['\r', '\n']) ++ ['\r', '\n']) = lines ++ [[], []] := by
  induction lines with
  | nil => decide
  | cons line lines ih =>
    rw [List.forall_mem_cons] at hlines
    obtain ⟨hline, hlines⟩ := hlines
    have hfree : '\n' ∉ line ++ ['\r'] := by
      rw [List.mem_append, not_or]
      exact ⟨hline _ (Or.inr rfl), by decide⟩
    have hother : ∀ c ∈ line, decide (c = '\r') = false :=
      Text.not_sep_of_not_mem (hline _ (Or.inl rfl))
    have htrim : Text.trim (· = '\r') (line ++ ['\r']) = line :=
      Text.trim_eq_iff.mpr ⟨[], ['\r'], rfl, List.forall_mem_nil _,
        List.forall_mem_singleton.mpr (decide_eq_true rfl),
        fun c hc => hother c (List.mem_of_mem_head? hc),
        fun c hc => hother c (List.mem_of_getLast? hc)⟩
    have hgroup : (line :: lines).flatMap (· ++ ['\r', '\n']) ++ ['\r', '\n'] =
        (line ++ ['\r']) ++ '\n' :: (lines.flatMap (· ++ ['\r', '\n']) ++ ['\r', '\n']) := by
      simp
    rw [hgroup, Receipt.lines,
      Text.split_append_sep (Text.not_sep_of_not_mem hfree) (decide_eq_true rfl), List.map_cons,
      htrim, ← Receipt.lines, ih hlines, List.cons_append]

theorem status?_statusLine (r : Response) :
    status? r.statusLine = some (r.status.code, r.status.reason) := by
  have hversion : ' ' ∉ "HTTP/1.1".toList := by decide
  have hcode : ' ' ∉ (toString r.status.code).toList := Text.not_mem_toString rfl _
  unfold status? Response.statusLine
  -- how the version is written does not matter, as long as there is no space in it
  generalize "HTTP/1.1".toList = version at hversion ⊢
  simp only [Option.bind_eq_bind, Option.bind_some,
    Text.splitOnce?_append_sep (Text.not_sep_of_not_mem hversion) (decide_eq_true rfl),
    Text.splitOnce?_append_sep (Text.not_sep_of_not_mem hcode) (decide_eq_true rfl),
    Text.decimal?_toString, if_true, String.ofList_toList]

/-- A field reads back if there is no blank in its value. -/
theorem fieldValue?_append (name : String) {value : List Char} (hspace : ' ' ∉ value)
    (htab : '\t' ∉ value) :
    Parser.fieldValue? name (name.toList ++ ' ' :: value) = some value := by
  have hvalue : ∀ c ∈ value, Text.isBlank c = false := by
    intro c hc
    rw [Text.isBlank, Text.not_sep_of_not_mem hspace c hc, Text.not_sep_of_not_mem htab c hc]
    rfl
  exact fieldValue?_eq_some_iff.mpr ⟨name.toList, ' ' :: value, rfl, beq_self_eq_true _,
    [' '], [], (List.append_nil _).symm, List.forall_mem_singleton.mpr rfl,
    List.forall_mem_nil _, fun c hc => hvalue c (List.mem_of_mem_head? hc),
    fun c hc => hvalue c (List.mem_of_getLast? hc)⟩

theorem stays?_stayWord (keepAlive : Bool) :
    stays? (Response.stayWord keepAlive) = some keepAlive := by
  cases keepAlive <;> decide

theorem summary?_headText (r : Response) :
    summary? (Utf8.encode r.headText) =
      some ⟨r.status.code, r.status.reason, r.keepAlive, r.body.bytes.length⟩ := by
  have hlines : Receipt.lines r.headText.toList = r.statusLine :: r.fields ++ [[], []] := by
    rw [Response.headText_toList]
    exact lines_flatMap fun line hline => (Response.breakless_of_mem_lines hline).2
  have hlength : Parser.fieldValue? "Content-Length:"
      ("Content-Length:".toList ++ ' ' :: (toString r.contentLength).toList) =
        some (toString r.contentLength).toList :=
    fieldValue?_append _ (Text.not_mem_toString rfl _) (Text.not_mem_toString rfl _)
  have hconnection : Parser.fieldValue? "Connection:"
      ("Connection:".toList ++ ' ' :: Response.stayWord r.keepAlive) =
        some (Response.stayWord r.keepAlive) := by
    refine fieldValue?_append _ ?_ ?_ <;> cases r.keepAlive <;> decide
  have hother : Parser.fieldValue? "Connection:"
      ("Content-Length:".toList ++ ' ' :: (toString r.contentLength).toList) = none :=
    Parser.fieldValue?_eq_none hlength (by decide)
  rw [summary?, Utf8.encode, Utf8.decodeChars_encodeChars]
  simp only [Option.bind_eq_bind, Option.bind_some, hlines, List.cons_append,
    status?_statusLine, Response.fields, List.findSome?_cons, hlength, hother, hconnection,
    Text.decimal?_toString, stays?_stayWord]
  rfl

/-! ## Reading a response -/

/-- A response reads back, and what follows it is left over. -/
theorem next?_encode_append (r : Response) (rest : Bytes) :
    next? (r.encode ++ rest) = some (ofResponse r, rest) := by
  have hcut : Reply.cutHead? (Utf8.encode r.headText ++ (r.body.bytes ++ rest)) =
      some (Utf8.encode r.headText, r.body.bytes ++ rest) := by
    rw [Response.encode_headText]
    exact Reply.cutHead?_lines (fun line hline => Response.breakless_of_mem_octets hline) _
  have hfits : r.body.bytes.length ≤ (r.body.bytes ++ rest).length := by
    rw [List.length_append]
    exact Nat.le_add_right _ _
  rw [Response.encode_eq, List.append_assoc, next?, hcut]
  simp only [Option.bind_eq_bind, Option.bind_some, summary?_headText, if_pos hfits,
    List.take_left, List.drop_left]
  rfl

/-- Responses one after another read back one after another. -/
theorem all?_flatMap_encode (rs : List Response) :
    all? (rs.flatMap Response.encode) = some (rs.map ofResponse) := by
  induction rs with
  | nil => rw [List.flatMap_nil, all?, if_pos rfl, List.map_nil]
  | cons r rs ih =>
    rw [List.flatMap_cons, all?_of_next? (next?_encode_append r _), ih]
    rfl

end Receipt
end Http
end SiteServer
