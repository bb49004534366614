import SiteServer.Http.Site
import SiteServer.Proofs.Files.Paths

/-!
# What a site gives away

A target is cut at its first question mark, and the slashes that it begins with are dropped, so
that what is left is a relative path (`exists_relative`).  It is refused exactly if one of its
segments is `..` (`path?_eq_none_iff`), and if it is not it leads to the root of the site or
below it.

So what is served with success is an object at or below the root that everyone may read, and
nothing else (`respond_confined`).
-/

namespace SiteServer
namespace Http
namespace Site

open Files (Path.isAbsolute Path.segments Path.join Path.location)

variable {s : Site} {files : Files.View} {target : String}

/-! ## Targets -/

/-- A target is slashes, a relative path, and from the first question mark on the query. -/
theorem exists_relative (target : List Char) :
    ∃ slashes query, target = slashes ++ relative target ++ query ∧ (∀ c ∈ slashes, c = '/') ∧
      '?' ∉ slashes ++ relative target ∧ (query = [] ∨ query.head? = some '?') := by
  refine ⟨(withoutQuery target).takeWhile (· = '/'), target.dropWhile (· != '?'), ?_, ?_, ?_, ?_⟩
  · rw [relative, List.takeWhile_append_dropWhile, withoutQuery, List.takeWhile_append_dropWhile]
  · intro c hc
    simpa using List.mem_takeWhile_imp hc
  · rw [relative, List.takeWhile_append_dropWhile]
    intro hmem
    simpa using List.mem_takeWhile_imp hmem
  · cases hquery : target.dropWhile (· != '?') with
    | nil => exact Or.inl rfl
    | cons c query =>
      have hstop := List.head?_dropWhile_not (· != '?') target
      rw [hquery] at hstop
      simp only [List.head?_cons] at hstop
      exact Or.inr (by simpa using hstop)

/-- What is left of a target does not begin with a slash. -/
theorem isAbsolute_relative (target : List Char) : Path.isAbsolute (relative target) = false := by
  have hstop := List.head?_dropWhile_not (· = '/') (withoutQuery target)
  rw [Path.isAbsolute, decide_eq_false_iff_not]
  intro habsolute
  rw [relative] at habsolute
  rw [habsolute] at hstop
  cases hstop

/-- The slashes that a target begins with are no segments that go up. -/
theorem mem_segments_relative (target : List Char) :
    ['.', '.'] ∈ Path.segments (relative target) ↔
      ['.', '.'] ∈ Path.segments (withoutQuery target) := by
  rw [relative]
  induction withoutQuery target with
  | nil => exact Iff.rfl
  | cons c path ih =>
    by_cases hslash : c = '/'
    · subst hslash
      have hcut : Path.segments ('/' :: path) = [] :: Path.segments path := rfl
      rw [List.dropWhile_cons_of_pos rfl, ih, hcut, List.mem_cons, or_iff_right]
      exact List.cons_ne_nil _ _
    · rw [List.dropWhile_cons_of_neg (by simpa using hslash)]

/-- A target is refused exactly if a segment before its query goes up. -/
theorem path?_eq_none_iff :
    s.path? target = none ↔ ['.', '.'] ∈ Path.segments (withoutQuery target.toList) := by
  have hclimbs : climbs (relative target.toList) = true ↔
      ['.', '.'] ∈ Path.segments (withoutQuery target.toList) := by
    rw [← mem_segments_relative, ← Files.Path.climbs_iff (isAbsolute_relative target.toList),
      climbs, List.any_eq_true]
    simp only [Bool.not_eq_true']
  rw [path?, ← hclimbs]
  simp only [ite_eq_left_iff, reduceCtorEq, imp_false, Bool.not_eq_true, Bool.not_eq_false]

theorem path?_eq_some {path : String} (h : s.path? target = some path) :
    path = String.ofList (Path.join s.root.toList (relative target.toList)) ∧
      ['.', '.'] ∉ Path.segments (relative target.toList) := by
  have hdown : ¬s.path? target = none := by
    rw [h]
    exact Option.some_ne_none path
  rw [path?_eq_none_iff, ← mem_segments_relative] at hdown
  refine ⟨?_, hdown⟩
  simp only [path?] at h
  split at h
  case isTrue => cases h
  case isFalse => exact (Option.some.inj h).symm

/-! ## What is served -/

/-- What is opened is at a path that is not refused, everyone may read it, and it is not a
directory. -/
theorem openFile_eq_ok {contents : Bytes} (h : s.openFile files target = .ok contents) :
    ∃ path stat, s.path? target = some path ∧ files.stat path = .ok stat ∧
      stat.mode &&& readableByAll ≠ 0 ∧ stat.isDirectory = false ∧
      files.mapped path = .ok contents := by
  unfold openFile at h
  split at h
  case h_1 => cases h
  case h_2 path hpath =>
    split at h
    case h_1 => cases h
    case h_2 stat hstat =>
      split at h
      case isTrue => cases h
      case isFalse hreadable =>
        split at h
        case isTrue => cases h
        case isFalse hdirectory =>
          split at h
          case h_1 => cases h
          case h_2 hmapped =>
            obtain rfl := Except.ok.inj h
            exact ⟨path, stat, hpath, hstat, hreadable, Bool.eq_false_iff.mpr hdirectory, hmapped⟩

/-- What is not opened is answered with an error. -/
theorem openFile_ne_error_ok : s.openFile files target ≠ .error .ok := by
  unfold openFile
  intro h
  split at h
  case h_1 => cases h
  case h_2 =>
    split at h
    case h_1 => cases h
    case h_2 =>
      split at h
      case isTrue => cases h
      case isFalse =>
        split at h
        case isTrue => cases h
        case isFalse => split at h <;> cases h

theorem respond_fst {σ : Type} [Store.UserStore σ] (s : Site) (files : Files.View) (r : Request)
    (users : σ) : (s.respond files r users).1 =
      match s.openFile files (Route.route r users).1 with
      | .ok contents => .file contents r.keepAlive
      | .error status => .error status r.keepAlive := by
  unfold respond
  rcases Route.route r users with ⟨target, users⟩
  simp only
  cases s.openFile files target <;> rfl

/-- **What is served lies below the root, and everyone may read it.**  Whatever a request asks
for, whatever the store of users says to it, and whatever the files are: if the answer is a
success then its body is that of an object which everyone may read and which is not a
directory.  The object is named by a path in the root, which is the target before its query
without the slashes that it begins with; no segment of it goes up, it does not begin with a
slash, and it leads to the root or below it.  A target is refused exactly if a segment before
its query is `..`, and then as a bad request, whatever the files are. -/
theorem respond_confined {σ : Type} [Store.UserStore σ] (s : Site) (files : Files.View)
    (r : Request) (users : σ) :
    ((s.respond files r users).1.status = .ok →
      ∃ slashes path query contents stat,
        (Route.route r users).1.toList = slashes ++ path ++ query ∧ (∀ c ∈ slashes, c = '/') ∧
        '?' ∉ slashes ++ path ∧ (query = [] ∨ query.head? = some '?') ∧
        ['.', '.'] ∉ Path.segments path ∧ Path.isAbsolute path = false ∧
        (Path.location s.root.toList).Contains
          (Path.location (Path.join s.root.toList path)) ∧
        files.stat (String.ofList (Path.join s.root.toList path)) = .ok stat ∧
        stat.mode &&& 0o004 ≠ 0 ∧ stat.isDirectory = false ∧
        files.mapped (String.ofList (Path.join s.root.toList path)) = .ok contents ∧
        (s.respond files r users).1.body
          = if contents = [] then .inline Response.blankPage else .file contents) ∧
    (∀ target, s.path? target = none ↔
      ['.', '.'] ∈ Path.segments (withoutQuery target.toList)) ∧
    (∀ target, s.path? target = none → ∀ files, s.openFile files target = .error .badRequest) ∧
    (s.path? (Route.route r users).1 = none →
      ∀ files, (s.respond files r users).1 = .error .badRequest r.keepAlive) := by
  have hrefused : ∀ target, s.path? target = none →
      ∀ files, s.openFile files target = .error .badRequest := by
    intro target hnone files
    simp only [openFile, hnone]
  refine ⟨fun hok => ?_, fun _ => path?_eq_none_iff, hrefused, fun hnone files => ?_⟩
  · rw [respond_fst] at hok ⊢
    cases hopen : s.openFile files (Route.route r users).1 with
    | error status =>
      rw [hopen] at hok
      exact absurd (hopen.trans (congrArg Except.error hok)) openFile_ne_error_ok
    | ok contents =>
      obtain ⟨path, stat, hpath, hstat, hreadable, hdirectory, hmapped⟩ := openFile_eq_ok hopen
      obtain ⟨slashes, query, htarget, hslashes, hmark, hquery⟩ :=
        exists_relative (Route.route r users).1.toList
      obtain ⟨rfl, hdown⟩ := path?_eq_some hpath
      have hrelative := isAbsolute_relative (Route.route r users).1.toList
      refine ⟨slashes, _, query, contents, stat, htarget, hslashes, hmark, hquery, hdown,
        hrelative, Files.Path.location_join hrelative hdown _, hstat, hreadable, hdirectory,
        hmapped, ?_⟩
      simp only [Response.file, List.isEmpty_iff]
  · rw [respond_fst, hrefused _ hnone]

/-- Files of which one may be read. -/
def oneFile : Files.View where
  stat path := if path = "root/index.html" then .ok ⟨0o644, false⟩ else .error .notFound
  mapped _ := .ok [104, 105]

/-- A request for it. -/
def plainRequest : Request where
  method := .get
  path := "//index.html?lang=en"
  version := "HTTP/1.1"
  host := none
  contentLength := 0
  keepAlive := true
  body := []

/-- A page with slashes before it and a query behind it is served from the root. -/
theorem respond_confined_of_plain_request :
    ((Site.ofRoot "root").respond oneFile plainRequest (⟨{}, .memory, {}⟩ : Store.Session)).1.status
      = .ok ∧
    ∃ path stat, oneFile.stat (String.ofList (Path.join "root".toList path)) = .ok stat ∧
      stat.mode &&& 0o004 ≠ 0 ∧
      (Path.location "root".toList).Contains (Path.location (Path.join "root".toList path)) := by
  have hok : ((Site.ofRoot "root").respond oneFile plainRequest
      (⟨{}, .memory, {}⟩ : Store.Session)).1.status = .ok := by decide
  obtain ⟨-, path, -, -, stat, -, -, -, -, -, -, hbelow, hstat, hreadable, -⟩ :=
    (respond_confined (Site.ofRoot "root") oneFile plainRequest
      (⟨{}, .memory, {}⟩ : Store.Session)).1 hok
  exact ⟨hok, path, stat, hstat, hreadable, hbelow⟩

end Site
end Http
end SiteServer
