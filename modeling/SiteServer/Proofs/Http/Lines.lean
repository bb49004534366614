import SiteServer.Proofs.Http.Framing
import SiteServer.Proofs.Text.Reading

/-!
# What lines say

The parser reads a line by cutting it up.  Here is what the line looks like if it succeeds,
and that it succeeds if the line looks like that.

* `IsRequestLine` and `requestLine_eq_ok_iff`: a request line has three words, a method, a
  target and a version.
* `IsField` and `fieldValue?_eq_some_iff`: a header line has a name and a value.
* `LastOf`, `lastOf_iff`: of several header lines the last one counts.
* `headerLines_eq_some_iff`: what the parser knows after the header lines.
-/

namespace SiteServer
namespace Http

/-! ## Request lines -/

/-- The text begins with the word, in any case. -/
def BeginsWith (word : String) (text : List Char) : Prop :=
  ∃ first rest, text = first ++ rest ∧ Text.eqIgnoreCase first word.toList = true

theorem isSome_afterIgnoreCase?_iff {word : String} {text : List Char} :
    (Text.afterIgnoreCase? word.toList text).isSome = true ↔ BeginsWith word text := by
  rw [Option.isSome_iff_exists]
  constructor
  · rintro ⟨rest, h⟩
    obtain ⟨first, htext, hsame⟩ := Text.afterIgnoreCase?_eq_some_iff.mp h
    exact ⟨first, rest, htext, hsame⟩
  · rintro ⟨first, rest, htext, hsame⟩
    exact ⟨rest, Text.afterIgnoreCase?_eq_some_iff.mpr ⟨first, htext, hsame⟩⟩

/-- The path, with its query, that a target names: a path names itself, and a web address
names its path. -/
inductive NamesPath (address : List Char → Option Url.Parts) : List Char → List Char → Prop
  | path {target : List Char} : target.head? = some '/' → NamesPath address target target
  | web {target : List Char} {parts : Url.Parts} :
      BeginsWith "http://" target ∨ BeginsWith "https://" target →
      address target = some parts →
      NamesPath address target (parts.path ++ (parts.query.map ('?' :: ·)).getD [])

/-- What begins with the word in any case begins with a letter of the word in some case. -/
theorem BeginsWith.head? {word : String} {text : List Char} (h : BeginsWith word text)
    (hword : word.toList ≠ []) :
    text.head?.map Char.toLower = word.toList.head?.map Char.toLower := by
  obtain ⟨first, rest, rfl, hsame⟩ := h
  cases first with
  | nil =>
    have hlength := Text.length_eq_of_eqIgnoreCase hsame
    exact absurd (List.length_eq_zero_iff.mp hlength.symm) hword
  | cons c first =>
    have hheads := congrArg List.head? (eq_of_beq hsame)
    rw [List.head?_map, List.head?_map] at hheads
    exact hheads

theorem isAbsolute_iff {target : List Char} :
    Target.isAbsolute target = true ↔
      BeginsWith "http://" target ∨ BeginsWith "https://" target := by
  rw [Target.isAbsolute, Bool.or_eq_true, isSome_afterIgnoreCase?_iff,
    isSome_afterIgnoreCase?_iff]

/-- A path is not written as a web address. -/
theorem not_isAbsolute_of_head? {target : List Char} (h : target.head? = some '/') :
    Target.isAbsolute target = false := by
  have hslash : ¬ some (Char.toLower '/') = some 'h' := by decide
  rw [← Bool.not_eq_true, isAbsolute_iff]
  rintro (hweb | hweb)
  · have hhead := hweb.head? (by decide)
    rw [h] at hhead
    exact hslash hhead
  · have hhead := hweb.head? (by decide)
    rw [h] at hhead
    exact hslash hhead

theorem originForm?_eq_some_iff {address : List Char → Option Url.Parts}
    {target path : List Char} :
    Target.originForm? address target = some path ↔ NamesPath address target path := by
  unfold Target.originForm?
  constructor
  · intro h
    split at h
    case isTrue habsolute =>
      obtain ⟨parts, hparts, rfl⟩ := Option.map_eq_some_iff.mp h
      have hweb := NamesPath.web (isAbsolute_iff.mp habsolute) hparts
      cases hquery : parts.query with
      | none =>
        rw [hquery, Option.map_none, Option.getD_none, List.append_nil] at hweb
        exact hweb
      | some q =>
        rw [hquery] at hweb
        exact hweb
    case isFalse =>
      split at h
      case isTrue hhead =>
        cases h
        exact .path hhead
      case isFalse => cases h
  · intro h
    cases h with
    | path hhead =>
      rw [not_isAbsolute_of_head? hhead, if_neg Bool.false_ne_true, if_pos hhead]
    | @web parts hbegins hparts =>
      rw [isAbsolute_iff.mpr hbegins, if_pos rfl, hparts, Option.map_some]
      cases parts.query with
      | none =>
        rw [Option.map_none, Option.getD_none, List.append_nil]
      | some q => rfl

theorem ofName?_eq_some_iff {name : List Char} {method : Method} :
    Method.ofName? name = some method ↔
      Text.eqIgnoreCase name method.name.toList = true := by
  have hdiffer : "GET".toList.map Char.toLower ≠ "POST".toList.map Char.toLower := by decide
  unfold Method.ofName?
  cases method with
  | get =>
    constructor
    · intro h
      split at h
      case isTrue hget => exact hget
      case isFalse => split at h <;> cases h
    · intro h
      rw [if_pos (show Text.eqIgnoreCase name "GET".toList = true from h)]
  | post =>
    constructor
    · intro h
      split at h
      case isTrue => cases h
      case isFalse =>
        split at h
        case isTrue hpost => exact hpost
        case isFalse => cases h
    · intro h
      have hpost : Text.eqIgnoreCase name "POST".toList = true := h
      have hget : ¬ Text.eqIgnoreCase name "GET".toList = true := fun hget =>
        hdiffer ((eq_of_beq hget).symm.trans (eq_of_beq hpost))
      rw [if_neg hget, if_pos hpost]

/-- What a request line says.  The words are the runs of characters other than blanks, of
which there are three: the name of the method, the target and the version.  The landing page
stands for a bare slash. -/
def IsRequestLine (d : Dialect) (line : List Char) (method : Method)
    (path version : List Char) : Prop :=
  ∃ name target origin, Text.Runs Text.isBlank line [name, target, version] ∧
    Text.eqIgnoreCase name method.name.toList = true ∧
    NamesPath d.address target origin ∧
    Text.eqIgnoreCase version "HTTP/1.1".toList = true ∧
    path = if origin = ['/'] then origin ++ d.landing.toList else origin

namespace Parser

variable {d : Dialect} {p p' q : Parser} {line : List Char} {headers : List (List Char)}

theorem requestLine_eq_ok_iff :
    p.requestLine d line = (.ok (), p') ↔
      ∃ method path version, IsRequestLine d line method path version ∧
        p' = { p with
          method
          path := some (String.ofList path)
          version := some (String.ofList version) } := by
  unfold requestLine
  constructor
  · intro h
    split at h
    case h_2 => cases h
    case h_1 name target version hwords =>
      split at h
      case h_1 => cases h
      case h_2 method hmethod =>
        simp only at h
        split at h
        case isFalse => cases h
        case isTrue hversion =>
          split at h
          case h_1 => cases h
          case h_2 origin horigin =>
            cases h
            exact ⟨method, _, version, ⟨name, target, origin, Text.words_eq_iff.mp hwords,
              ofName?_eq_some_iff.mp hmethod, originForm?_eq_some_iff.mp horigin, hversion,
              rfl⟩, rfl⟩
  · rintro ⟨method, path, version, ⟨name, target, origin, hwords, hname, horigin, hversion,
      rfl⟩, rfl⟩
    rw [Text.words_eq_iff.mpr hwords]
    simp only [ofName?_eq_some_iff.mpr hname, hversion, if_true,
      originForm?_eq_some_iff.mpr horigin]

end Parser

/-! ## Header lines -/

/-- A header line with this name, colon included and in any case, and with this value, which
may have blanks around it. -/
def IsField (name : String) (line value : List Char) : Prop :=
  ∃ first rest, line = first ++ rest ∧ Text.eqIgnoreCase first name.toList = true ∧
    Text.Trimmed Text.isBlank rest value

theorem fieldValue?_eq_some_iff {name : String} {line value : List Char} :
    Parser.fieldValue? name line = some value ↔ IsField name line value := by
  rw [Parser.fieldValue?, Option.map_eq_some_iff]
  constructor
  · rintro ⟨rest, hrest, hvalue⟩
    obtain ⟨first, hline, hsame⟩ := Text.afterIgnoreCase?_eq_some_iff.mp hrest
    exact ⟨first, rest, hline, hsame, Text.trim_eq_iff.mp hvalue⟩
  · rintro ⟨first, rest, hline, hsame, hvalue⟩
    exact ⟨rest, Text.afterIgnoreCase?_eq_some_iff.mpr ⟨first, hline, hsame⟩,
      Text.trim_eq_iff.mpr hvalue⟩

/-- A line has no two names of which neither begins with the other. -/
theorem take_toLower_of_field {name name' : String} {line value value' : List Char}
    (h : IsField name line value) (h' : IsField name' line value') :
    (name.toList.map Char.toLower).take name'.toList.length
      = (name'.toList.map Char.toLower).take name.toList.length := by
  have hfront : ∀ {name : String} {value : List Char}, IsField name line value →
      name.toList.map Char.toLower = (line.map Char.toLower).take name.toList.length := by
    rintro name value ⟨first, rest, rfl, hsame, -⟩
    rw [← Text.length_eq_of_eqIgnoreCase hsame, List.map_append, ← List.length_map Char.toLower,
      List.take_left, eq_of_beq hsame]
  rw [hfront h, hfront h', List.take_take, List.take_take, Nat.min_comm]

/-- The line announces a body of `n` octets. -/
def Announces (line : List Char) (n : Nat) : Prop :=
  ∃ value, IsField "Content-Length:" line value ∧ Text.Writes value n ∧ n ≤ Text.max64

/-- The line asks to keep the connection open. -/
def AsksToStay (line : List Char) : Prop :=
  ∃ value, IsField "Connection:" line value ∧
    Text.eqIgnoreCase value "keep-alive".toList = true

/-- A line that announces something announces a number that can be read. -/
def IsReadable (line : List Char) : Prop :=
  ∀ value, IsField "Content-Length:" line value → ∃ n, Text.Writes value n ∧ n ≤ Text.max64

/-! ## The last line counts -/

/-- `found` is what the last of the lines says of which `R` says something; `none` if there
is no such line. -/
def LastOf {β : Type} (R : List Char → β → Prop) (lines : List (List Char)) :
    Option β → Prop
  | none => ∀ line ∈ lines, ∀ x, ¬ R line x
  | some x => ∃ before line after, lines = before ++ line :: after ∧ R line x ∧
      ∀ line ∈ after, ∀ y, ¬ R line y

section Last

variable {β : Type} {R : List Char → β → Prop} {f : List Char → Option β}
  {lines : List (List Char)}

/-- What `f` finds in the last of the lines in which it finds something. -/
def lastOf? (f : List Char → Option β) : List (List Char) → Option β
  | [] => none
  | line :: lines => (lastOf? f lines).or (f line)

theorem lastOf?_append (f : List Char → Option β) (before after : List (List Char)) :
    lastOf? f (before ++ after) = (lastOf? f after).or (lastOf? f before) := by
  induction before with
  | nil => exact (Option.or_none ..).symm
  | cons line before ih =>
    rw [List.cons_append, lastOf?, ih, lastOf?, Option.or_assoc]

theorem lastOf?_eq_none (h : ∀ line ∈ lines, f line = none) : lastOf? f lines = none := by
  induction lines with
  | nil => rfl
  | cons line lines ih =>
    rw [List.forall_mem_cons] at h
    rw [lastOf?, ih h.2, h.1]
    rfl

theorem lastOf_lastOf? (hf : ∀ line x, f line = some x ↔ R line x)
    (lines : List (List Char)) : LastOf R lines (lastOf? f lines) := by
  induction lines with
  | nil => exact nofun
  | cons line lines ih =>
    rw [lastOf?]
    cases hlater : lastOf? f lines with
    | some x =>
      rw [hlater] at ih
      obtain ⟨before, line', after, rfl, hline', hafter⟩ := ih
      exact ⟨line :: before, line', after, rfl, hline', hafter⟩
    | none =>
      rw [hlater] at ih
      cases hline : f line with
      | some x => exact ⟨[], line, lines, rfl, (hf line x).mp hline, ih⟩
      | none =>
        refine List.forall_mem_cons.mpr ⟨fun x hx => ?_, ih⟩
        rw [(hf line x).mpr hx] at hline
        cases hline

/-- Looking through the lines finds what the last of them says. -/
theorem lastOf_iff (hf : ∀ line x, f line = some x ↔ R line x) {found : Option β} :
    LastOf R lines found ↔ lastOf? f lines = found := by
  have hnone : ∀ {line}, (∀ x, ¬ R line x) → f line = none := by
    intro line h
    cases hline : f line with
    | none => rfl
    | some x => exact absurd ((hf line x).mp hline) (h x)
  refine ⟨fun h => ?_, fun h => h ▸ lastOf_lastOf? hf lines⟩
  cases found with
  | none => exact lastOf?_eq_none fun line hline => hnone (h line hline)
  | some x =>
    obtain ⟨before, line, after, rfl, hline, hafter⟩ := h
    rw [lastOf?_append, lastOf?, lastOf?_eq_none fun line hline => hnone (hafter line hline),
      (hf line x).mpr hline]
    rfl

end Last

namespace Parser

variable {p q : Parser} {line : List Char} {headers : List (List Char)}

/-! ## What header lines tell the parser -/

/-- The number that a line announces, if it announces one that can be read. -/
def announced? (line : List Char) : Option Nat :=
  (fieldValue? "Content-Length:" line).bind fun value =>
    (Text.readUnsigned Text.max64 value).toOption

/-- Whether a line asks to keep the connection open. -/
def asksToStay (line : List Char) : Bool :=
  (fieldValue? "Connection:" line).any fun value => Text.eqIgnoreCase value "keep-alive".toList

/-- What the parser knows after a header line. -/
def told (p : Parser) (line : List Char) : Parser :=
  { p with
    host := ((fieldValue? "Host:" line).map String.ofList).or p.host
    contentLength := (announced? line).getD p.contentLength
    keepAlive := p.keepAlive || asksToStay line }

theorem announced?_eq_some_iff {n : Nat} : announced? line = some n ↔ Announces line n := by
  have hread : ∀ value, (Text.readUnsigned Text.max64 value).toOption = some n ↔
      Text.Writes value n ∧ n ≤ Text.max64 := by
    intro value
    rw [← Text.readUnsigned_eq_ok_iff]
    cases Text.readUnsigned Text.max64 value with
    | ok m => simp [Except.toOption]
    | error e => simp [Except.toOption]
  rw [announced?, Option.bind_eq_some_iff]
  simp only [hread, fieldValue?_eq_some_iff, Announces]

theorem asksToStay_iff : asksToStay line = true ↔ AsksToStay line := by
  rw [asksToStay, Option.any_eq_true]
  simp only [fieldValue?_eq_some_iff, AsksToStay]

/-- Where one name is found another is not. -/
theorem fieldValue?_eq_none {name name' : String} {value : List Char}
    (h : fieldValue? name line = some value)
    (hdiffer : (name.toList.map Char.toLower).take name'.toList.length
      ≠ (name'.toList.map Char.toLower).take name.toList.length) :
    fieldValue? name' line = none := by
  cases h' : fieldValue? name' line with
  | none => rfl
  | some value' =>
    exact absurd (take_toLower_of_field (fieldValue?_eq_some_iff.mp h)
      (fieldValue?_eq_some_iff.mp h')) hdiffer

/-- A header line that is understood announces nothing that cannot be read. -/
theorem readable_of_headerLine (h : p.headerLine line 0 = (.ok .more, q)) :
    line ≠ [] ∧ IsReadable line := by
  obtain ⟨hne, -⟩ := ne_nil_of_headerLine h
  refine ⟨hne, fun value hvalue => ?_⟩
  have hlength := fieldValue?_eq_some_iff.mpr hvalue
  have hconnection : fieldValue? "Connection:" line = none :=
    fieldValue?_eq_none hlength (by decide)
  rw [headerLine, if_neg hne, hconnection, hlength] at h
  cases hread : Text.readUnsigned Text.max64 value with
  | ok n => exact ⟨n, Text.readUnsigned_eq_ok_iff.mp hread⟩
  | error e =>
    simp only [hread] at h
    cases h

/-- A header line tells the parser its value. -/
theorem headerLine_of_readable (hne : line ≠ []) (hreadable : IsReadable line) :
    p.headerLine line 0 = (.ok .more, p.told line) := by
  rw [headerLine, if_neg hne, told, announced?, asksToStay]
  -- the line has one of the three names, or none of them
  cases hconnection : fieldValue? "Connection:" line with
  | some value =>
    have hlength : fieldValue? "Content-Length:" line = none :=
      fieldValue?_eq_none hconnection (by decide)
    have hhost : fieldValue? "Host:" line = none := fieldValue?_eq_none hconnection (by decide)
    rw [hlength, hhost, Option.any_some]
    cases hstay : Text.eqIgnoreCase value "keep-alive".toList with
    | true =>
      simp only [hstay, if_true, Bool.or_true]
      rfl
    | false =>
      simp only [hstay, Bool.false_eq_true, if_false, Bool.or_false]
      rfl
  | none =>
    rw [Option.any_none, Bool.or_false]
    cases hlength : fieldValue? "Content-Length:" line with
    | some value =>
      have hhost : fieldValue? "Host:" line = none := fieldValue?_eq_none hlength (by decide)
      obtain ⟨n, hn⟩ := hreadable value (fieldValue?_eq_some_iff.mp hlength)
      have hread := Text.readUnsigned_eq_ok_iff.mpr hn
      simp only [hhost, Option.bind_some, hread]
      rfl
    | none =>
      cases hhost : fieldValue? "Host:" line with
      | some value => rfl
      | none => rfl

/-! ## All header lines -/

/-- The header lines are understood one after another. -/
theorem headerLines_eq_some_iff :
    headerLines p headers = some q ↔
      (∀ line ∈ headers, line ≠ [] ∧ IsReadable line) ∧ q = headers.foldl told p := by
  induction headers generalizing p with
  | nil => exact ⟨fun h => ⟨nofun, (Option.some.inj h).symm⟩, fun h => congrArg some h.2.symm⟩
  | cons line headers ih =>
    rw [headerLines_cons_eq_some, List.forall_mem_cons, List.foldl_cons]
    constructor
    · rintro ⟨p', hline, hheaders⟩
      obtain ⟨hne, hreadable⟩ := readable_of_headerLine hline
      rw [headerLine_of_readable hne hreadable] at hline
      obtain ⟨-, rfl⟩ := Prod.mk.inj hline
      obtain ⟨hall, hq⟩ := ih.mp hheaders
      exact ⟨⟨⟨hne, hreadable⟩, hall⟩, hq⟩
    · rintro ⟨⟨⟨hne, hreadable⟩, hall⟩, hq⟩
      exact ⟨_, headerLine_of_readable hne hreadable, ih.mpr ⟨hall, hq⟩⟩

/-- What the parser knows after all header lines: of the hosts and of the lengths the last
one, and whether one line has asked to stay. -/
theorem foldl_told (p : Parser) (headers : List (List Char)) :
    headers.foldl told p =
      { p with
        host := ((lastOf? (fieldValue? "Host:") headers).map String.ofList).or p.host
        contentLength := (lastOf? announced? headers).getD p.contentLength
        keepAlive := p.keepAlive || headers.any asksToStay } := by
  induction headers generalizing p with
  | nil =>
    rw [List.foldl_nil, lastOf?, lastOf?, List.any_nil, Bool.or_false]
    rfl
  | cons line headers ih =>
    rw [List.foldl_cons, ih, lastOf?, lastOf?, List.any_cons]
    simp only [told, Bool.or_assoc, Option.map_or, Option.or_assoc, Option.getD_or]

end Parser

end Http
end SiteServer
