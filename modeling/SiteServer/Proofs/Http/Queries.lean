import Mathlib.Data.List.TakeWhile
import SiteServer.Proofs.Http.Confinement

/-!
# What a query can change

The path of a request comes with its query.  Two parts of the site cut it, and each in its own
way: what is looked for among the files ends at the first question mark (`Site.withoutQuery`),
whereas the segment that chooses a page or an action comes after the last slash, wherever that
stands (`Request.lastSegment`).  The two agree as long as there is no slash in the query: the
question mark may then come into the segment, but it chooses nothing (`Route.agree_mark`).

A slash in the query takes the choice over.  So a query is without effect exactly if it has no
slash, or if what comes after its last slash chooses what the path would have chosen anyway
(`respond_withQuery_iff`).
-/

namespace SiteServer

namespace Text

variable {α : Type} {sep : α → Bool} {cs ds : List α}

/-- A separator further on hides what comes before. -/
theorem afterLast_append_of_mem (h : ∃ c ∈ ds, sep c = true) :
    afterLast sep (cs ++ ds) = afterLast sep ds := by
  obtain ⟨c, hc, hsep⟩ := h
  have hstop : ¬∀ d ∈ ds.reverse, (!sep d) = true := fun hall => by
    simpa [hsep] using hall c (List.mem_reverse.mpr hc)
  have hshorter : (ds.reverse.takeWhile fun d => !sep d).length ≠ ds.reverse.length :=
    fun heq => hstop (List.takeWhile_eq_self_iff.mp
      ((List.takeWhile_prefix _).eq_of_length heq))
  rw [afterLast, afterLast, List.reverse_append, List.takeWhile_append, if_neg hshorter]

theorem afterLast_append_of_not_mem (h : ∀ c ∈ ds, sep c = false) :
    afterLast sep (cs ++ ds) = afterLast sep cs ++ ds := by
  have hall : ∀ c ∈ ds.reverse, (!sep c) = true := fun c hc => by
    simpa using h c (List.mem_reverse.mp hc)
  rw [afterLast, afterLast, List.reverse_append, List.takeWhile_append_of_pos hall,
    List.reverse_append, List.reverse_reverse]

end Text

namespace Http

/-- The same request with a query behind its path. -/
def Request.withQuery (r : Request) (query : String) : Request :=
  { r with path := r.path ++ "?" ++ query }

namespace Request

variable {r : Request} {query : String}

theorem toList_path_withQuery (r : Request) (query : String) :
    (r.withQuery query).path.toList = r.path.toList ++ '?' :: query.toList := by
  rw [withQuery, String.append_assoc, String.toList_append, String.toList_append]
  rfl

theorem lastSegment_withQuery (h : '/' ∈ query.toList) :
    (r.withQuery query).lastSegment = Text.afterLast (· = '/') query.toList := by
  rw [lastSegment, toList_path_withQuery, List.append_cons]
  exact Text.afterLast_append_of_mem ⟨'/', h, rfl⟩

/-- A query without a slash is added to the last segment, which begins as before unless it was
empty. -/
theorem head?_lastSegment_withQuery (h : '/' ∉ query.toList) :
    (r.withQuery query).lastSegment.head? = r.lastSegment.head? ∨
      (r.withQuery query).lastSegment.head? = some '?' ∧ r.lastSegment.head? = none := by
  have hnone : ∀ c ∈ '?' :: query.toList, decide (c = '/') = false := by
    intro c hc
    rw [decide_eq_false_iff_not]
    rintro rfl
    rcases List.mem_cons.mp hc with hmark | hc
    · exact absurd hmark (by decide)
    · exact h hc
  have hadd : (r.withQuery query).lastSegment = r.lastSegment ++ '?' :: query.toList := by
    rw [lastSegment, toList_path_withQuery, lastSegment]
    exact Text.afterLast_append_of_not_mem hnone
  rw [hadd]
  cases r.lastSegment with
  | nil => exact Or.inr ⟨rfl, rfl⟩
  | cons c segment => exact Or.inl rfl

end Request

namespace Site

variable {s : Site} {files : Files.View}

/-- The query is no part of what a target stands for. -/
theorem relative_append_mark {path : List Char} (h : '?' ∉ path) (query : List Char) :
    relative (path ++ '?' :: query) = relative path := by
  have hall : ∀ c ∈ path, (c != '?') = true := fun c hc =>
    bne_iff_ne.mpr fun heq => h (heq ▸ hc)
  have hcut : ∀ rest, withoutQuery (path ++ rest) = path ++ withoutQuery rest := fun rest =>
    List.takeWhile_append_of_pos hall
  have hwhole := hcut []
  rw [List.append_nil] at hwhole
  rw [relative, relative, hcut, hwhole]
  rfl

/-- What is opened depends on what the target stands for. -/
theorem openFile_congr {target target' : String}
    (h : relative target.toList = relative target'.toList) :
    s.openFile files target = s.openFile files target' := by
  rw [openFile, openFile, path?, path?, h]

/-- Every path is that of a file that everyone may read, and that holds its own name behind an
octet that makes it no empty file. -/
def namesakes : Files.View where
  stat _ := .ok ⟨readableByAll, false⟩
  mapped path := .ok (0 :: Utf8.encode path)

theorem openFile_namesakes (landing target : String) :
    openFile ⟨"", landing⟩ namesakes target =
      if climbs (relative target.toList) then .error .badRequest
      else .ok (0 :: Utf8.encode (String.ofList (relative target.toList))) := by
  have hjoin : Files.Path.join [] (relative target.toList) = relative target.toList := by
    rw [Files.Path.join, isAbsolute_relative]
    rfl
  rw [openFile, path?]
  by_cases hclimbs : climbs (relative target.toList)
  · simp only [hclimbs, if_true]
  · simp only [hclimbs, Bool.false_eq_true, if_false]
    rw [show ("" : String).toList = [] from rfl, hjoin]
    rfl

end Site

namespace Route

/-- The action that a request asks for, if it asks for one. -/
def asked? (r : Request) : Option Action :=
  match r.method with
  | .post => action? r.lastSegment.head?
  | .get => none

/-- Whether two first characters choose the same where a path is asked for: the same action, and
the same file. -/
def Agree (path : String) (c f : Option Char) : Prop :=
  action? c = action? f ∧
    Site.relative (page c path).toList = Site.relative (page f path).toList

variable {σ : Type} [Store.UserStore σ] {r : Request} {users : σ}

theorem route_of_asked {a : Action} (h : asked? r = some a) : route r users = act a r users := by
  unfold asked? at h
  unfold route
  dsimp only
  split at h
  case h_1 hmethod => rw [hmethod, h]
  case h_2 => cases h

theorem route_of_not_asked (h : asked? r = none) :
    route r users = (page r.lastSegment.head? r.path, users) := by
  unfold asked? at h
  unfold route
  dsimp only
  split at h
  case h_1 hmethod => rw [hmethod, h]
  case h_2 hmethod => rw [hmethod]

/-- A first character chooses a page of the site, or else the path that is asked for. -/
theorem page_cases (c : Option Char) :
    (∀ path, page c path = path) ∨
      ∃ name, (∀ path, page c path = name) ∧ Site.climbs (Site.relative name.toList) = false := by
  unfold page
  split
  · exact Or.inr ⟨registerPage, fun _ => rfl, by decide⟩
  · exact Or.inr ⟨loginPage, fun _ => rfl, by decide⟩
  · exact Or.inr ⟨picturePage, fun _ => rfl, by decide⟩
  · exact Or.inr ⟨videoPage, fun _ => rfl, by decide⟩
  · exact Or.inr ⟨fansPage, fun _ => rfl, by decide⟩
  · exact Or.inl fun _ => rfl

theorem relative_page_withQuery (h : '?' ∉ r.path.toList) (query : String) (c : Option Char) :
    Site.relative (page c (r.withQuery query).path).toList
      = Site.relative (page c r.path).toList := by
  rcases page_cases c with hself | ⟨name, hname, -⟩
  · rw [hself, hself, Request.toList_path_withQuery, Site.relative_append_mark h]
  · rw [hname, hname]

theorem agree_mark (path : String) : Agree path (some '?') none := ⟨rfl, rfl⟩

/-- Without a slash in the query the same is chosen. -/
theorem agree_of_no_slash {query : String} (h : '/' ∉ query.toList) :
    Agree r.path (r.withQuery query).lastSegment.head? r.lastSegment.head? := by
  rcases Request.head?_lastSegment_withQuery (r := r) h with heq | ⟨hmark, hnone⟩
  · rw [heq]
    exact ⟨rfl, rfl⟩
  · rw [hmark, hnone]
    exact agree_mark r.path

end Route

namespace Site

open Route (Agree)

variable {r : Request} {query path : String}

/-- Requests that choose the same are answered alike, and do the same to the store. -/
theorem respond_withQuery_of_agree {σ : Type} [Store.UserStore σ] (hpath : '?' ∉ r.path.toList)
    (h : Agree r.path (r.withQuery query).lastSegment.head? r.lastSegment.head?) (s : Site)
    (files : Files.View) (users : σ) :
    Route.asked? (r.withQuery query) = Route.asked? r ∧
      s.respond files (r.withQuery query) users = s.respond files r users := by
  have hasked : Route.asked? (r.withQuery query) = Route.asked? r := by
    rw [Route.asked?, h.1]
    rfl
  refine ⟨hasked, ?_⟩
  cases haction : Route.asked? r with
  | some a =>
    -- the form is in the body, which is the same
    have hroute : Route.route (r.withQuery query) users = Route.route r users := by
      rw [Route.route_of_asked (hasked.trans haction), Route.route_of_asked haction]
      rfl
    rw [respond, hroute]
    rfl
  | none =>
    have hopen : s.openFile files
          (Route.page (r.withQuery query).lastSegment.head? (r.withQuery query).path)
        = s.openFile files (Route.page r.lastSegment.head? r.path) :=
      openFile_congr ((Route.relative_page_withQuery hpath query _).trans h.2)
    rw [respond, respond, Route.route_of_not_asked (hasked.trans haction),
      Route.route_of_not_asked haction]
    dsimp only
    rw [hopen]
    rfl

/-- Among files that hold their own names only requests for the same are answered alike, or such
as are refused. -/
theorem relative_eq_of_respond {σ : Type} [Store.UserStore σ] {landing : String} {r r' : Request}
    {users users' : σ}
    (h : (respond ⟨"", landing⟩ namesakes r users).1
      = (respond ⟨"", landing⟩ namesakes r' users').1) :
    relative (Route.route r users).1.toList = relative (Route.route r' users').1.toList ∨
      climbs (relative (Route.route r users).1.toList) = true ∧
        climbs (relative (Route.route r' users').1.toList) = true := by
  rw [respond_fst, respond_fst, openFile_namesakes, openFile_namesakes] at h
  by_cases hclimbs : climbs (relative (Route.route r users).1.toList) <;>
  by_cases hclimbs' : climbs (relative (Route.route r' users').1.toList)
  · exact Or.inr ⟨hclimbs, hclimbs'⟩
  · simp [hclimbs, hclimbs', Response.file, Response.error] at h
  · simp [hclimbs, hclimbs', Response.file, Response.error] at h
  · simp only [hclimbs, hclimbs', Bool.false_eq_true, if_false, Response.file, List.isEmpty_cons,
      Response.mk.injEq, Body.file.injEq, List.cons.injEq, true_and] at h
    have hsame := congrArg Utf8.decode h.2
    rw [Utf8.decode_encode, Utf8.decode_encode] at hsame
    exact Or.inl (String.ofList_injective (Option.some.inj hsame))

/-- Among files that hold their own names the answer to a request for a file tells what was chosen
for it. -/
theorem relative_page_eq_of_respond {σ : Type} [Store.UserStore σ] {landing : String} {users : σ}
    (hpath : '?' ∉ r.path.toList) (hmethod : r.method = .get)
    (h : respond ⟨"", landing⟩ namesakes (r.withQuery query) users
      = respond ⟨"", landing⟩ namesakes r users) :
    relative (Route.page (r.withQuery query).lastSegment.head? r.path).toList
      = relative (Route.page r.lastSegment.head? r.path).toList := by
  have hnone : Route.asked? r = none := by rw [Route.asked?, hmethod]
  have hnone' : Route.asked? (r.withQuery query) = none := by
    rw [Route.asked?, Request.withQuery, hmethod]
  have hcases := relative_eq_of_respond (congrArg Prod.fst h)
  rw [Route.route_of_not_asked hnone, Route.route_of_not_asked hnone',
    Route.relative_page_withQuery hpath] at hcases
  rcases hcases with heq | ⟨hclimbs, hclimbs'⟩
  · exact heq
  -- what is refused is no page of the site, so it is the path both times
  rcases Route.page_cases (r.withQuery query).lastSegment.head? with hself | ⟨name, hname, hdown⟩
  · rcases Route.page_cases r.lastSegment.head? with hself' | ⟨name, hname, hdown⟩
    · rw [hself, hself']
    · rw [hname, hdown] at hclimbs'
      cases hclimbs'
  · rw [hname, hdown] at hclimbs
    cases hclimbs

/-- **A query is without effect unless a slash in it chooses something else.**  For a path without
a question mark and a query, a request for the two together asks for the same action as a request
for the path alone, is answered alike and leaves the same store, whatever the site, its files, the
store, the method and the body are, exactly if the query has no slash, or if what comes after its
last slash begins with a character that chooses the same as the path does. -/
theorem respond_withQuery_iff (hpath : '?' ∉ path.toList) :
    (∀ r : Request, r.path = path → ∀ (σ : Type) [Store.UserStore σ] (s : Site)
      (files : Files.View) (users : σ),
      Route.asked? (r.withQuery query) = Route.asked? r ∧
        s.respond files (r.withQuery query) users = s.respond files r users) ↔
    ('/' ∈ query.toList →
      Agree path (Text.afterLast (· = '/') query.toList).head?
        (Text.afterLast (· = '/') path.toList).head?) := by
  constructor
  · intro hall hslash
    obtain ⟨post, hpost, rfl⟩ : ∃ r : Request, r.method = .post ∧ r.path = path :=
      ⟨⟨.post, path, "", none, 0, false, []⟩, rfl, rfl⟩
    obtain ⟨get, hget, hsame⟩ : ∃ r : Request, r.method = .get ∧ r.path = post.path :=
      ⟨{ post with method := .get }, rfl, rfl⟩
    have users : Store.Session := ⟨{}, .memory, {}⟩
    refine ⟨?_, ?_⟩
    · have hasked := (hall post rfl Store.Session ⟨"", ""⟩ namesakes users).1
      rw [← Request.lastSegment_withQuery (r := post) hslash]
      simp only [Route.asked?, Request.withQuery, hpost] at hasked
      exact hasked
    · have hrespond := (hall get hsame Store.Session ⟨"", ""⟩ namesakes users).2
      rw [← hsame, ← Request.lastSegment_withQuery (r := get) hslash]
      exact relative_page_eq_of_respond (hsame ▸ hpath) hget hrespond
  · rintro hagree r rfl σ _ s files users
    refine respond_withQuery_of_agree hpath ?_ s files users
    by_cases hslash : '/' ∈ query.toList
    · rw [Request.lastSegment_withQuery hslash]
      exact hagree hslash
    · exact Route.agree_of_no_slash hslash

/-- A query in which another question mark and another page chosen by the same digit occur. -/
theorem respond_withQuery_iff_of_same_digit :
    '?' ∉ "/gallery/5.html".toList ∧
      ∀ r : Request, r.path = "/gallery/5.html" → ∀ (users : Store.Session) (s : Site)
        (files : Files.View),
        Route.asked? (r.withQuery "from=2?&to=/sub/57") = Route.asked? r ∧
          s.respond files (r.withQuery "from=2?&to=/sub/57") users = s.respond files r users := by
  refine ⟨by decide, fun r hr users s files => ?_⟩
  refine (respond_withQuery_iff (by decide)).mpr (fun _ => ⟨by decide, ?_⟩) r hr _ s files users
  decide

/-- A query with a slash makes a form that was posted to a document register its user. -/
theorem slash_in_query_registers :
    let form : Request :=
      ⟨.post, "/judge.html", "HTTP/1.1", none, 17, false, Utf8.encode "user=ann&passwd=x"⟩
    let site : Site := .ofRoot "/srv"
    let nobody : Store.Session := ⟨{}, .memory, {}⟩
    '?' ∉ form.path.toList ∧
      Route.asked? form = none ∧ Route.asked? (form.withQuery "next=/3") = some .register ∧
      site.respond namesakes form nobody
        = (.file (0 :: Utf8.encode "/srv/judge.html") false, nobody) ∧
      (site.respond namesakes (form.withQuery "next=/3") nobody).1
        = .file (0 :: Utf8.encode "/srv/log.html") false ∧
      (site.respond namesakes (form.withQuery "next=/3") nobody).2.credentials.users
        = [("ann", "x")] := by
  decide +kernel

end Site
end Http
end SiteServer
