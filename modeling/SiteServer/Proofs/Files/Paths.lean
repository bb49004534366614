import SiteServer.Files.Path
import SiteServer.Proofs.Text.Reading

/-!
# Paths that only go down

A relative path without a segment `..` has no component that leads up or away
(`climbs_iff`), and joined to a directory it has the components of the directory
first (`components_join`).  So it leads to the directory or below it
(`location_join`).
-/

namespace SiteServer
namespace Files
namespace Path

variable {dir path w : List Char}

/-! ## Components -/

/-- A segment is not a component, goes up, or is a name. -/
theorem component?_cases (w : List Char) :
    component? w = none ∨ (w = ['.', '.'] ∧ component? w = some .parent) ∨
      (w ≠ ['.', '.'] ∧ ∃ name, component? w = some (.name name)) := by
  unfold component?
  split
  case h_1 | h_2 => exact Or.inl rfl
  case h_3 => exact Or.inr (Or.inl ⟨rfl, rfl⟩)
  case h_4 hparent => exact Or.inr (Or.inr ⟨hparent, w, rfl⟩)

/-- A relative path leads up exactly if a segment of it does. -/
theorem climbs_iff (hrelative : isAbsolute path = false) :
    (∃ c ∈ components path, c.isDownward = false) ↔ ['.', '.'] ∈ segments path := by
  constructor
  · rintro ⟨c, hc, hup⟩
    rcases List.mem_append.mp hc with hc | hc
    · rw [beginning, hrelative, if_neg Bool.false_ne_true] at hc
      split at hc
      · rw [List.mem_singleton.mp hc] at hup
        cases hup
      · cases hc
    · obtain ⟨w, hw, hcomponent⟩ := List.mem_filterMap.mp hc
      rcases component?_cases w with hnone | ⟨rfl, -⟩ | ⟨-, name, hname⟩
      · rw [hnone] at hcomponent
        cases hcomponent
      · exact hw
      · rw [hname] at hcomponent
        cases hcomponent
        cases hup
  · exact fun h => ⟨.parent, List.mem_append_right _ (List.mem_filterMap.mpr ⟨_, h, rfl⟩), rfl⟩

/-! ## Joining -/

theorem segments_append_slash (dir path : List Char) :
    segments (dir ++ '/' :: path) = segments dir ++ segments path :=
  Text.split_append_cons_sep dir (decide_eq_true rfl) path

theorem beginning_append_slash (dir path : List Char) :
    beginning (dir ++ '/' :: path) = beginning (dir ++ ['/']) := by
  have hhead : isAbsolute (dir ++ '/' :: path) = isAbsolute (dir ++ ['/']) := by
    cases dir <;> rfl
  obtain ⟨first, rest, hfirst⟩ := List.exists_cons_of_ne_nil (Text.split_ne_nil (· = '/') dir)
  rw [beginning, beginning, hhead, segments_append_slash, segments_append_slash, segments, hfirst]
  rfl

theorem beginning_append_end (hdir : dir ≠ []) : beginning (dir ++ ['/']) = beginning dir := by
  have hhead : isAbsolute (dir ++ ['/']) = isAbsolute dir := by
    obtain ⟨c, rest, rfl⟩ := List.exists_cons_of_ne_nil hdir
    rfl
  obtain ⟨first, rest, hfirst⟩ := List.exists_cons_of_ne_nil (Text.split_ne_nil (· = '/') dir)
  rw [beginning, beginning, hhead, segments_append_slash, segments, hfirst]
  rfl

/-- In a directory a relative path adds components to those of the directory. -/
theorem components_join (hrelative : isAbsolute path = false) (dir : List Char) :
    ∃ tail, components (join dir path) = components dir ++ tail ∧ tail ⊆ components path := by
  have hnames : ∀ dir : List Char, (segments (dir ++ '/' :: path)).filterMap component?
      = (segments dir).filterMap component? ++ (segments path).filterMap component? := by
    intro dir
    rw [segments_append_slash, List.filterMap_append]
  rw [join, hrelative, if_neg Bool.false_ne_true]
  rcases List.eq_nil_or_concat dir with rfl | ⟨body, last, rfl⟩
  · exact ⟨components path, rfl, List.Subset.refl _⟩
  refine ⟨(segments path).filterMap component?, ?_, List.subset_append_right _ _⟩
  by_cases hlast : last = '/'
  · subst hlast
    have hend : (segments (body ++ ['/'])).filterMap component?
        = (segments body).filterMap component? := by
      rw [segments_append_slash, List.filterMap_append]
      exact List.append_nil _
    simp only [List.concat_eq_append, List.getLast?_append, List.getLast?_singleton,
      Option.some_or]
    rw [List.append_assoc, List.singleton_append, components, components, hnames,
      beginning_append_slash, hend, List.append_assoc]
  · have hdir : body ++ [last] ≠ [] := List.append_ne_nil_of_right_ne_nil _ (List.cons_ne_nil _ _)
    simp only [List.concat_eq_append, List.getLast?_append, List.getLast?_singleton,
      Option.some_or]
    rw [components, components, hnames, beginning_append_slash, beginning_append_end hdir,
      List.append_assoc]

/-! ## Where paths lead -/

namespace Location

variable {l m n : Location}

theorem Contains.refl (l : Location) : l.Contains l := ⟨rfl, rfl, List.prefix_refl _⟩

theorem Contains.trans (h : l.Contains m) (h' : m.Contains n) : l.Contains n :=
  ⟨h'.1.trans h.1, h'.2.1.trans h.2.1, h.2.2.trans h'.2.2⟩

/-- Going down stays below. -/
theorem contains_move {c : Component} (hc : c.isDownward = true) (l : Location) :
    l.Contains (l.move c) := by
  cases c with
  | top | parent => cases hc
  | here => exact .refl l
  | name name => exact ⟨rfl, rfl, List.prefix_append _ _⟩

theorem contains_foldl {tail : List Component} (htail : ∀ c ∈ tail, c.isDownward = true)
    (l : Location) : l.Contains (tail.foldl move l) := by
  induction tail generalizing l with
  | nil => exact .refl l
  | cons c tail ih =>
    obtain ⟨hc, htail⟩ := List.forall_mem_cons.mp htail
    exact (contains_move hc l).trans (ih htail (l.move c))

end Location

/-- A relative path that does not go up leads to the directory it is joined to, or below. -/
theorem location_join (hrelative : isAbsolute path = false) (hdown : ['.', '.'] ∉ segments path)
    (dir : List Char) : (location dir).Contains (location (join dir path)) := by
  obtain ⟨tail, hcomponents, hsub⟩ := components_join hrelative dir
  have htail : ∀ c ∈ tail, c.isDownward = true := by
    intro c hc
    by_contra hup
    exact hdown ((climbs_iff hrelative).mp ⟨c, hsub hc, Bool.eq_false_iff.mpr hup⟩)
  rw [location, location, hcomponents, List.foldl_append]
  exact Location.contains_foldl htail _

end Path
end Files
end SiteServer
