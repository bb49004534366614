import SiteServer.Proofs.Http.Lines
import SiteServer.Proofs.Url.Plain

/-!
# Two ways to name a document

A request may name a document by its path or by its address.  A path is taken as it was sent,
but an address is read, and reading changes what is not plain (`Url.Parts.IsPlain`).  So a path
names the same document behind a scheme and a host if and only if it is plain; a dot segment, for
one, is left in a path, where it leads to a refusal, and resolved in an address.

* `Target.absolute_form_eq_iff`: when the two ways agree, and what both then come to.
* `Target.originForm?_of_double_dot`, `Target.double_dot_differs`: a path that no address names.
-/

namespace SiteServer
namespace Http

/-- A path, with its query, of which nothing is changed when it is read in an address. -/
def IsPlainTarget (target : List Char) : Prop :=
  ∃ parts : Url.Parts, parts.IsPlain ∧ target = parts.target

namespace Target

variable {address : List Char → Option Url.Parts} {scheme host target path : List Char}

theorem beginsWith_of_isScheme (h : Url.IsScheme scheme) (rest : List Char) :
    BeginsWith "http://" (scheme ++ rest) ∨ BeginsWith "https://" (scheme ++ rest) :=
  h.imp (fun hsame => ⟨scheme, rest, rfl, hsame⟩) fun hsame => ⟨scheme, rest, rfl, hsame⟩

/-- An address names what is read in it. -/
theorem originForm?_of_isScheme (h : Url.IsScheme scheme) (rest : List Char) :
    originForm? address (scheme ++ rest) = (address (scheme ++ rest)).map Url.Parts.target := by
  have hbegins := beginsWith_of_isScheme h rest
  rw [originForm?, if_pos (isAbsolute_iff.mpr hbegins)]
  refine congrArg (Option.map · _) (funext fun parts => ?_)
  unfold Url.Parts.target
  cases parts.query with
  | none => exact (List.append_nil _).symm
  | some q => rfl

theorem isPlainTarget_of_originForm? (hread : Url.IsReader address) (h : Url.IsScheme scheme)
    {rest : List Char} (hpath : originForm? address (scheme ++ rest) = some path) :
    IsPlainTarget path := by
  rw [originForm?_of_isScheme h] at hpath
  obtain ⟨parts, hparts, rfl⟩ := Option.map_eq_some_iff.mp hpath
  exact ⟨parts, hread.plain hparts, rfl⟩

/-- An address with a plain path names that path. -/
theorem eq_of_originForm?_address (hread : Url.IsReader address) (hscheme : Url.IsScheme scheme)
    (hhost : Url.IsHostText host) (htarget : IsPlainTarget target)
    (hpath : originForm? address (scheme ++ (host ++ target)) = some path) : path = target := by
  obtain ⟨parts, hplain, rfl⟩ := htarget
  rw [originForm?_of_isScheme hscheme] at hpath
  obtain ⟨read, hparts, rfl⟩ := Option.map_eq_some_iff.mp hpath
  rw [hread.eq_of_isPlain hscheme hhost hplain hparts]

end Target

namespace Parser

variable {d : Dialect} {line line' name target target' version path : List Char}

/-- If two targets name the same path, it does not matter which of them stands in the line. -/
theorem requestLine_congr (p : Parser) (hline : Text.Runs Text.isBlank line [name, target, version])
    (hline' : Text.Runs Text.isBlank line' [name, target', version])
    (hpath : Target.originForm? d.address target = some path)
    (hpath' : Target.originForm? d.address target' = some path) :
    p.requestLine d line = p.requestLine d line' := by
  unfold requestLine
  rw [Text.words_eq_iff.mpr hline, Text.words_eq_iff.mpr hline']
  simp only [hpath, hpath']

end Parser

namespace Target

variable {address : List Char → Option Url.Parts} {d : Dialect}
  {scheme host target path : List Char}

/-- **A path and an address with that path agree exactly if the path is plain**, whatever reads
the addresses, as long as it does what the standard promises.  If an address is accepted, the path
that it names is plain, so it is the path behind its host if and only if that one is plain.  Then
a request line comes to the same with the one and with the other, whatever the parser knows and
whatever the landing page is. -/
theorem absolute_form_eq_iff (hread : Url.IsReader d.address) (hscheme : Url.IsScheme scheme)
    (hhost : Url.IsHostText host) (htarget : target.head? = some '/')
    (hpath : originForm? d.address (scheme ++ (host ++ target)) = some path) :
    originForm? d.address target = some target ∧ IsPlainTarget path ∧
      (path = target ↔ IsPlainTarget target) ∧
      (IsPlainTarget target → ∀ (p : Parser) (line line' name version : List Char),
        Text.Runs Text.isBlank line [name, scheme ++ (host ++ target), version] →
        Text.Runs Text.isBlank line' [name, target, version] →
        p.requestLine d line = p.requestLine d line') := by
  have hitself : originForm? d.address target = some target :=
    originForm?_eq_some_iff.mpr (.path htarget)
  have hplain : IsPlainTarget path := isPlainTarget_of_originForm? hread hscheme hpath
  have hsame : IsPlainTarget target → path = target := fun h =>
    eq_of_originForm?_address hread hscheme hhost h hpath
  refine ⟨hitself, hplain, ⟨fun heq => heq ▸ hplain, hsame⟩, ?_⟩
  intro h p line line' name version hline hline'
  rw [hsame h] at hpath
  exact p.requestLine_congr hline hline' hpath hitself

/-- A path with a query, behind a scheme that is not written in small letters. -/
theorem absolute_form_eq_iff_of_query :
    let scheme := "HTTPS://".toList
    let host := "[::1]:8443".toList
    let target := "/a/b?x=1".toList
    let d : Dialect := ⟨"judge.html", Url.parse?⟩
    Url.IsScheme scheme ∧ Url.IsHostText host ∧
      originForm? Url.parse? (scheme ++ (host ++ target)) = some target ∧
      IsPlainTarget target ∧
      Parser.fresh.requestLine d "GET HTTPS://[::1]:8443/a/b?x=1 HTTP/1.1".toList
        = Parser.fresh.requestLine d "GET /a/b?x=1 HTTP/1.1".toList := by
  intro scheme host target d
  have hscheme : Url.IsScheme scheme := Or.inr (by decide)
  have hhost : Url.IsHostText host :=
    ⟨by decide, List.all_iff_forall_prop.mp (by decide)⟩
  have hpath : originForm? Url.parse? (scheme ++ (host ++ target)) = some target := by
    decide +kernel
  obtain ⟨-, -, hiff, hline⟩ :=
    absolute_form_eq_iff (d := d) Url.isReader_parse? hscheme hhost rfl hpath
  have hplain := hiff.mp rfl
  exact ⟨hscheme, hhost, hpath, hplain, hline hplain Parser.fresh _ _ "GET".toList
    "HTTP/1.1".toList (Text.words_eq_iff.mp (by decide)) (Text.words_eq_iff.mp (by decide))⟩

/-- A segment that goes up is resolved behind any host, and left where it is in a path. -/
theorem originForm?_of_double_dot (hread : Url.IsReader address) (hscheme : Url.IsScheme scheme)
    (hhost : Url.IsHostText host)
    (hpath : originForm? address (scheme ++ (host ++ "/a/../b".toList)) = some path) :
    path = "/b".toList ∧ originForm? address "/a/../b".toList = some "/a/../b".toList := by
  refine ⟨?_, originForm?_eq_some_iff.mpr (.path (by decide))⟩
  have hpadding : ∀ c ∈ "/a/../b".toList, Url.isPadding c = false :=
    List.all_iff_forall_prop.mp (by decide)
  rw [originForm?_of_isScheme hscheme] at hpath
  obtain ⟨parts, hparts, rfl⟩ := Option.map_eq_some_iff.mp hpath
  rw [hread.behind_host hscheme hhost (by decide) hpadding hparts]
  decide

/-- There are a path without blanks and an address with that path that do not agree. -/
theorem double_dot_differs :
    let host := "[::1]".toList
    let target := "/a/../b".toList
    Url.IsHostText host ∧ target.head? = some '/' ∧
      (∀ c ∈ target, c ≠ ' ' ∧ c ≠ '\t' ∧ c ≠ '\r' ∧ c ≠ '\n') ∧
      ∃ path, originForm? Url.parse? ("http://".toList ++ (host ++ target)) = some path ∧
        originForm? Url.parse? target = some target ∧ path ≠ target := by
  intro host target
  have hhost : Url.IsHostText host :=
    ⟨by decide, List.all_iff_forall_prop.mp (by decide)⟩
  have hscheme : Url.IsScheme "http://".toList := Or.inl (by decide)
  have haddress : originForm? Url.parse? ("http://".toList ++ (host ++ target))
      = some "/b".toList := by decide +kernel
  obtain ⟨-, hpath⟩ := originForm?_of_double_dot Url.isReader_parse? hscheme hhost haddress
  exact ⟨hhost, by decide, List.all_iff_forall_prop.mp (by decide), _, haddress, hpath,
    by decide⟩

end Target
end Http
end SiteServer
