import Mathlib.Data.Bool.AllAny
import SiteServer.Proofs.Text.Reading
import SiteServer.Url.Parser

/-!
# Addresses that read as they are written

Reading a web address changes its path and its query: characters are escaped, backslashes
become slashes, dot segments are resolved, and a fragment is dropped.  Of what comes out nothing
is changed when it is read again.

* `Parts.IsPlain`: path and query of which nothing is changed.
* `isPlain_of_parse?`: what has been read is plain.
* `parse?_append`: what is read behind a host.
* `IsReader`: what is relied on of any reader of addresses, and holds of this one.
-/

namespace SiteServer
namespace Url

/-! ## Escapes -/

namespace Percent

variable {set : Char → Bool} {text : List Char}

theorem encode_eq_self (h : ∀ c ∈ text, set c = false) : encode set text = text := by
  induction text with
  | nil => rfl
  | cons c text ih =>
    rw [List.forall_mem_cons] at h
    rw [encode, List.flatMap_cons, if_neg (by rw [h.1]; exact Bool.false_ne_true), ← encode,
      ih h.2, List.singleton_append]

/-- The characters that escapes are written with. -/
def escapeChars : List Char := "%0123456789ABCDEF".toList

theorem mem_escapeChars_of_mem_escape {b : UInt8} {c : Char} (h : c ∈ escape b) :
    c ∈ escapeChars := by
  have hdigit : ∀ n < 16, (Nat.digitChar n).toUpper ∈ escapeChars := by decide
  have hb : b.toNat < 256 := b.toNat_lt
  simp only [escape, List.mem_cons, List.not_mem_nil, or_false] at h
  rcases h with rfl | rfl | rfl
  · decide
  · exact hdigit _ (by omega)
  · exact hdigit _ (Nat.mod_lt _ (by decide))

/-- What is written with escapes holds characters of the text and of escapes. -/
theorem mem_encode {c : Char} (h : c ∈ encode set text) :
    (c ∈ text ∧ set c = false) ∨ c ∈ escapeChars := by
  obtain ⟨x, hx, hc⟩ := List.mem_flatMap.mp h
  split at hc
  case isTrue =>
    obtain ⟨b, -, hb⟩ := List.mem_flatMap.mp hc
    exact Or.inr (mem_escapeChars_of_mem_escape hb)
  case isFalse hset =>
    obtain rfl := List.mem_singleton.mp hc
    exact Or.inl ⟨hx, Bool.eq_false_iff.mpr hset⟩

end Percent

/-! ## Segments -/

/-- A segment that is not resolved. -/
def Stays (segment : List Char) : Prop := isDot segment = false ∧ isDoubleDot segment = false

/-- A segment of which nothing is changed. -/
structure IsPlainSegment (segment : List Char) : Prop where
  chars : ∀ c ∈ segment, isSlash c = false ∧ Percent.inPath c = false
  stays : Stays segment

theorem isPlainSegment_nil : IsPlainSegment [] := ⟨nofun, by decide, by decide⟩

theorem mem_of_mem_goUp {passed : List (List Char)} {s : List Char} (h : s ∈ goUp passed) :
    s ∈ passed := by
  cases passed with
  | nil => exact h
  | cons t passed =>
    simp only [goUp] at h
    split at h
    · exact h
    · exact List.mem_cons_of_mem _ h

/-- What is left of the segments is not resolved again. -/
theorem mem_resolve {passed segments : List (List Char)} {s : List Char}
    (h : s ∈ resolve passed segments) :
    s = [] ∨ s ∈ passed ∨ (s ∈ segments ∧ Stays s) := by
  have hlast : ∀ {l : List (List Char)} {x : List Char}, s ∈ l.reverse ++ [x] → s ∈ l ∨ s = x :=
    fun hs => (List.mem_append.mp hs).imp List.mem_reverse.mp List.mem_singleton.mp
  fun_induction resolve passed segments with
  | case1 passed => exact Or.inr (Or.inl (List.mem_reverse.mp h))
  | case2 passed t hup =>
    rcases hlast h with h | rfl
    · exact Or.inr (Or.inl (mem_of_mem_goUp h))
    · exact Or.inl rfl
  | case3 passed t hup hdot =>
    rcases hlast h with h | rfl
    · exact Or.inr (Or.inl h)
    · exact Or.inl rfl
  | case4 passed t hup hdot =>
    rcases hlast h with h | rfl
    · exact Or.inr (Or.inl h)
    · exact Or.inr (Or.inr ⟨List.mem_singleton_self s, Bool.eq_false_iff.mpr hdot,
        Bool.eq_false_iff.mpr hup⟩)
  | case5 passed t rest hrest hup ih =>
    -- going up only takes away, so what is left was passed before
    rcases ih h with h | h | ⟨h, hstays⟩
    · exact Or.inl h
    · exact Or.inr (Or.inl (mem_of_mem_goUp h))
    · exact Or.inr (Or.inr ⟨List.mem_cons_of_mem _ h, hstays⟩)
  | case6 passed t rest hrest hup hdot ih =>
    rcases ih h with h | h | ⟨h, hstays⟩
    · exact Or.inl h
    · exact Or.inr (Or.inl h)
    · exact Or.inr (Or.inr ⟨List.mem_cons_of_mem _ h, hstays⟩)
  | case7 passed t rest hrest hup hdot ih =>
    rcases ih h with h | h | ⟨h, hstays⟩
    · exact Or.inl h
    · rcases List.mem_cons.mp h with rfl | h
      · exact Or.inr (Or.inr ⟨List.mem_cons_self, Bool.eq_false_iff.mpr hdot,
          Bool.eq_false_iff.mpr hup⟩)
      · exact Or.inr (Or.inl h)
    · exact Or.inr (Or.inr ⟨List.mem_cons_of_mem _ h, hstays⟩)

theorem resolve_ne_nil {passed segments : List (List Char)} (h : segments ≠ []) :
    resolve passed segments ≠ [] := by
  fun_induction resolve passed segments with
  | case1 passed => exact absurd rfl h
  | case2 | case3 | case4 => exact List.append_ne_nil_of_right_ne_nil _ (List.cons_ne_nil _ _)
  | case5 passed t rest hrest hup ih => exact ih hrest
  | case6 passed t rest hrest hup hdot ih => exact ih hrest
  | case7 passed t rest hrest hup hdot ih => exact ih hrest

/-- Segments that all stay are left as they are. -/
theorem resolve_of_stays {passed segments : List (List Char)} (h : ∀ s ∈ segments, Stays s) :
    resolve passed segments = passed.reverse ++ segments := by
  induction segments generalizing passed with
  | nil => exact (List.append_nil _).symm
  | cons s rest ih =>
    rw [List.forall_mem_cons] at h
    obtain ⟨⟨hdot, hup⟩, hrest⟩ := h
    cases rest with
    | nil => simp only [resolve, hdot, hup, Bool.false_eq_true, if_false]
    | cons t rest =>
      rw [resolve, hdot, hup, if_neg Bool.false_ne_true, if_neg Bool.false_ne_true, ih hrest]
      · simp
      · exact List.cons_ne_nil _ _

/-! ## Paths -/

/-- Segments, each behind a slash. -/
def joinSegments (segments : List (List Char)) : List Char := segments.flatMap fun s => '/' :: s

/-- A path of which nothing is changed. -/
def IsPlainPath (path : List Char) : Prop :=
  ∃ segments, segments ≠ [] ∧ (∀ s ∈ segments, IsPlainSegment s) ∧ path = joinSegments segments

/-- Segments that are joined come apart again. -/
theorem split_joinSegments {s : List Char} {rest : List (List Char)}
    (h : ∀ t ∈ s :: rest, ∀ c ∈ t, isSlash c = false) :
    Text.split isSlash (s ++ joinSegments rest) = s :: rest := by
  induction rest generalizing s with
  | nil =>
    rw [joinSegments, List.flatMap_nil, List.append_nil]
    exact Text.split_eq_singleton (h s (List.mem_singleton_self s))
  | cons t rest ih =>
    rw [List.forall_mem_cons] at h
    have hjoin : joinSegments (t :: rest) = '/' :: (t ++ joinSegments rest) := rfl
    rw [hjoin, Text.split_append_sep h.1 (by decide), ih h.2]

theorem not_isSlash_of_mem_escapeChars : ∀ c ∈ Percent.escapeChars,
    isSlash c = false ∧ Percent.inPath c = false ∧ Percent.inQuery c = false :=
  List.all_iff_forall_prop.mp (by decide)

/-- The path that a text stands for is plain. -/
theorem isPlainPath_normalPath (text : List Char) : IsPlainPath (normalPath text) := by
  refine ⟨_, resolve_ne_nil ?_, fun s hs => ?_, rfl⟩
  · exact List.map_eq_nil_iff.not.mpr (Text.split_ne_nil _ _)
  · rcases mem_resolve hs with rfl | h | ⟨h, hstays⟩
    · exact isPlainSegment_nil
    · exact absurd h List.not_mem_nil
    · obtain ⟨t, ht, rfl⟩ := List.mem_map.mp h
      refine ⟨fun c hc => ?_, hstays⟩
      rcases Percent.mem_encode hc with ⟨hmem, hset⟩ | hescape
      · exact ⟨Text.not_sep_of_mem_split ht c hmem, hset⟩
      · obtain ⟨hslash, hpath, -⟩ := not_isSlash_of_mem_escapeChars c hescape
        exact ⟨hslash, hpath⟩

/-- A plain path stands for itself. -/
theorem normalPath_of_isPlainPath {path : List Char} (h : IsPlainPath path) :
    normalPath (path.drop 1) = path := by
  obtain ⟨segments, hne, hplain, rfl⟩ := h
  obtain ⟨s, rest, rfl⟩ := List.exists_cons_of_ne_nil hne
  have hdrop : (joinSegments (s :: rest)).drop 1 = s ++ joinSegments rest := rfl
  have hencode : (s :: rest).map (Percent.encode Percent.inPath) = s :: rest := by
    conv_rhs => rw [← List.map_id (s :: rest)]
    exact List.map_congr_left fun t ht =>
      Percent.encode_eq_self fun c hc => ((hplain t ht).chars c hc).2
  rw [hdrop, normalPath, split_joinSegments fun t ht c hc => ((hplain t ht).chars c hc).1,
    hencode, resolve_of_stays fun t ht => (hplain t ht).stays]
  rfl

theorem IsPlainPath.chars {path : List Char} (h : IsPlainPath path) {c : Char} (hc : c ∈ path) :
    Percent.inPath c = false := by
  obtain ⟨segments, -, hplain, rfl⟩ := h
  obtain ⟨s, hs, hc⟩ := List.mem_flatMap.mp hc
  rcases List.mem_cons.mp hc with rfl | hc
  · decide
  · exact ((hplain s hs).chars c hc).2

theorem IsPlainPath.exists_cons {path : List Char} (h : IsPlainPath path) :
    ∃ rest, path = '/' :: rest := by
  obtain ⟨segments, hne, -, rfl⟩ := h
  obtain ⟨s, rest, rfl⟩ := List.exists_cons_of_ne_nil hne
  exact ⟨s ++ joinSegments rest, rfl⟩

/-! ## Parts of an address -/

/-- The path and, behind a question mark, the query. -/
def Parts.target (parts : Parts) : List Char :=
  parts.path ++ (parts.query.map ('?' :: ·)).getD []

/-- Path and query of which nothing is changed. -/
structure Parts.IsPlain (parts : Parts) : Prop where
  path : IsPlainPath parts.path
  query : ∀ q ∈ parts.query, ∀ c ∈ q, Percent.inQuery c = false

/-- What is read behind the host of an address. -/
def readTarget (target : List Char) : Parts where
  path := normalPath ((target.takeWhile fun c => c ≠ '?' ∧ c ≠ '#').drop 1)
  query := (after? '?' (target.dropWhile fun c => c ≠ '?' ∧ c ≠ '#')).map fun q =>
    Percent.encode Percent.inQuery (q.takeWhile (· ≠ '#'))

/-- What has been read is plain. -/
theorem isPlain_readTarget (target : List Char) : (readTarget target).IsPlain := by
  refine ⟨isPlainPath_normalPath _, fun q hq c hc => ?_⟩
  obtain ⟨sent, -, rfl⟩ := Option.map_eq_some_iff.mp hq
  rcases Percent.mem_encode hc with ⟨-, hset⟩ | hescape
  · exact hset
  · exact (not_isSlash_of_mem_escapeChars c hescape).2.2

/-- **Whatever address is read, its parts are plain.** -/
theorem isPlain_of_parse? {text : List Char} {parts : Parts} (h : parse? text = some parts) :
    parts.IsPlain := by
  unfold parse? at h
  split at h
  case h_1 => cases h
  case h_2 rest _ =>
    obtain ⟨-, hparts⟩ := Option.ite_none_right_eq_some.mp h
    rw [← Option.some.inj hparts]
    exact isPlain_readTarget _

/-- The path ends where the query begins. -/
theorem Parts.IsPlain.cut_target {parts : Parts} (h : parts.IsPlain) :
    parts.target.takeWhile (fun c => c ≠ '?' ∧ c ≠ '#') = parts.path ∧
      parts.target.dropWhile (fun c => c ≠ '?' ∧ c ≠ '#')
        = (parts.query.map ('?' :: ·)).getD [] := by
  refine Text.takeWhile_dropWhile_append (fun c hc => ?_) fun c hc => ?_
  · have hset := h.path.chars hc
    rw [decide_eq_true_eq]
    constructor <;> rintro rfl <;> revert hset <;> decide
  · cases hquery : parts.query with
    | none =>
      rw [hquery] at hc
      cases hc
    | some q =>
      rw [hquery] at hc
      cases hc
      rfl

/-- The query ends where the target ends, and nothing of it is escaped. -/
theorem Parts.IsPlain.encode_query {parts : Parts} (h : parts.IsPlain) :
    (after? '?' ((parts.query.map ('?' :: ·)).getD [])).map (fun q =>
      Percent.encode Percent.inQuery (q.takeWhile (· ≠ '#'))) = parts.query := by
  cases hquery : parts.query with
  | none => rfl
  | some q =>
    have hchars := h.query q hquery
    have hall : q.takeWhile (· ≠ '#') = q := by
      refine List.takeWhile_eq_self_iff.mpr fun c hc => ?_
      have hset := hchars c hc
      rw [decide_eq_true_eq]
      rintro rfl
      revert hset
      decide
    show some (Percent.encode Percent.inQuery (q.takeWhile (· ≠ '#'))) = some q
    rw [hall, Percent.encode_eq_self hchars]

/-- **Plain parts are read back.** -/
theorem readTarget_target {parts : Parts} (h : parts.IsPlain) : readTarget parts.target = parts := by
  obtain ⟨hpath, hrest⟩ := h.cut_target
  rw [readTarget, hpath, hrest, h.encode_query, normalPath_of_isPlainPath h.path]

/-! ## Putting an address together -/

/-- A scheme with the two slashes behind it, in any case. -/
def IsScheme (scheme : List Char) : Prop :=
  Text.eqIgnoreCase scheme "http://".toList = true ∨
    Text.eqIgnoreCase scheme "https://".toList = true

/-- A text that is read as an authority, and all of it: it does not end before its end. -/
structure IsHostText (host : List Char) : Prop where
  ne_nil : host ≠ []
  chars : ∀ c ∈ host, endsAuthority c = false ∧ isDropped c = false

/-- Behind the colon of a scheme stand the two slashes. -/
theorem afterScheme?_append {scheme : List Char} (h : IsScheme scheme) (rest : List Char) :
    afterScheme? (scheme ++ rest) = some ('/' :: '/' :: rest) := by
  have hslashes : ∀ {text : List Char}, Text.eqIgnoreCase text ['/', '/'] = true →
      text = ['/', '/'] :=
    fun htext => Text.eq_of_eqIgnoreCase htext (List.all_iff_forall_prop.mp (by decide))
  unfold afterScheme?
  rcases h with h | h
  · have hparts : Text.eqIgnoreCase scheme ("http:".toList ++ ['/', '/']) = true := h
    obtain ⟨name, slashes, rfl, hname, hrest⟩ := Text.exists_of_eqIgnoreCase_append hparts
    rw [hslashes hrest, List.append_assoc,
      Text.afterIgnoreCase?_eq_some_iff.mpr ⟨name, rfl, hname⟩]
    rfl
  · -- the longer name does not begin with the shorter one and a colon
    have hlength := Text.length_eq_of_eqIgnoreCase h
    have hother : Text.afterIgnoreCase? "http:".toList (scheme ++ rest) = none := by
      refine if_neg fun hsame => ?_
      have hfront := eq_of_beq hsame
      rw [List.take_append_of_le_length (by rw [hlength]; decide), List.map_take,
        eq_of_beq h] at hfront
      revert hfront
      decide
    have hparts : Text.eqIgnoreCase scheme ("https:".toList ++ ['/', '/']) = true := h
    obtain ⟨name, slashes, rfl, hname, hrest⟩ := Text.exists_of_eqIgnoreCase_append hparts
    rw [hother, hslashes hrest, List.append_assoc,
      Text.afterIgnoreCase?_eq_some_iff.mpr ⟨name, rfl, hname⟩]
    rfl

/-- Padding is escaped wherever it stands. -/
theorem set_of_isPadding {c : Char} (h : isPadding c = true) :
    Percent.inPath c = true ∧ Percent.inQuery c = true := by
  have hle : c.toNat ≤ 32 := of_decide_eq_true h
  rcases Nat.lt_or_eq_of_le hle with hlt | heq
  · have hcontrol : Percent.isControl c = true := by
      rw [Percent.isControl, decide_eq_true hlt, Bool.true_or]
    rw [Percent.inPath, Percent.inQuery, hcontrol]
    exact ⟨Bool.true_or _, Bool.true_or _⟩
  · obtain rfl : c = ' ' := Char.toNat_inj.mp heq
    decide

theorem isDropped_of_not_isPadding {c : Char} (h : isPadding c = false) : isDropped c = false := by
  rw [Bool.eq_false_iff]
  intro hdropped
  simp only [isDropped, Bool.or_eq_true, decide_eq_true_eq] at hdropped
  rcases hdropped with (rfl | rfl) | rfl <;> revert h <;> decide

/-- There is no padding in plain parts. -/
theorem not_isPadding_of_mem_target {parts : Parts} (h : parts.IsPlain) {c : Char}
    (hc : c ∈ parts.target) : isPadding c = false := by
  rw [Bool.eq_false_iff]
  intro hpadding
  obtain ⟨hpath, hquery⟩ := set_of_isPadding hpadding
  rcases List.mem_append.mp hc with hc | hc
  · exact absurd hpath (Bool.eq_false_iff.mp (h.path.chars hc))
  · cases hq : parts.query with
    | none =>
      rw [hq] at hc
      exact List.not_mem_nil hc
    | some q =>
      rw [hq] at hc
      rcases List.mem_cons.mp hc with rfl | hc
      · exact absurd hpadding (by decide)
      · exact absurd hquery (Bool.eq_false_iff.mp (h.query q hq c hc))

theorem not_isPadding_of_mem_scheme {scheme : List Char} (h : IsScheme scheme) {c : Char}
    (hc : c ∈ scheme) : isPadding c = false := by
  rw [Bool.eq_false_iff]
  intro hpadding
  -- the case of a letter makes no difference to padding
  have hle : c ≤ ' ' := of_decide_eq_true hpadding
  have hself : c.toLower = c := dif_neg fun hupper =>
    absurd (UInt32.le_trans hupper.1 hle) (by decide)
  have hnot : ∀ {word : List Char}, (∀ x ∈ word.map Char.toLower, isPadding x = false) →
      ¬ Text.eqIgnoreCase scheme word = true := by
    intro word hword hsame
    have hmem : c.toLower ∈ word.map Char.toLower := eq_of_beq hsame ▸ List.mem_map_of_mem hc
    rw [hself] at hmem
    exact absurd hpadding (Bool.eq_false_iff.mp (hword c hmem))
  exact h.elim (hnot (List.all_iff_forall_prop.mp (by decide)))
    (hnot (List.all_iff_forall_prop.mp (by decide)))

/-- Nothing is taken off an address that is put together from a scheme, a host and a target
without padding. -/
theorem clean_address {scheme host target : List Char} (hscheme : IsScheme scheme)
    (hhost : IsHostText host) (hne : target ≠ []) (htarget : ∀ c ∈ target, isPadding c = false) :
    clean (scheme ++ (host ++ target)) = scheme ++ (host ++ target) := by
  have hbegins : scheme ≠ [] := by
    rintro rfl
    exact hscheme.elim (by decide) (by decide)
  have htrim : Text.trim isPadding (scheme ++ (host ++ target)) = scheme ++ (host ++ target) := by
    refine Text.trim_eq_iff.mpr ⟨[], [], by simp, nofun, nofun, fun c hc => ?_, fun c hc => ?_⟩
    · rw [List.head?_append_of_ne_nil _ hbegins] at hc
      exact not_isPadding_of_mem_scheme hscheme (List.mem_of_mem_head? hc)
    · rw [← List.append_assoc, List.getLast?_append_of_ne_nil _ hne] at hc
      exact htarget c (List.mem_of_mem_getLast? hc)
  rw [clean, htrim, List.filter_eq_self]
  intro c hc
  rw [Bool.not_eq_true']
  rcases List.mem_append.mp hc with hc | hc
  · exact isDropped_of_not_isPadding (not_isPadding_of_mem_scheme hscheme hc)
  · rcases List.mem_append.mp hc with hc | hc
    · exact (hhost.chars c hc).2
    · exact isDropped_of_not_isPadding (htarget c hc)

/-- The authority begins behind the slashes and ends where the target begins. -/
theorem IsHostText.cut_authority {host target : List Char} (h : IsHostText host)
    (htarget : target.head? = some '/') :
    ('/' :: '/' :: (host ++ target)).dropWhile isSlash = host ++ target ∧
      (host ++ target).takeWhile (fun c => !endsAuthority c) = host ∧
      (host ++ target).dropWhile (fun c => !endsAuthority c) = target := by
  refine ⟨?_, Text.takeWhile_dropWhile_append (fun c hc => ?_) fun c hc => ?_⟩
  · obtain ⟨c, cs, rfl⟩ := List.exists_cons_of_ne_nil h.ne_nil
    have hends := (h.chars c List.mem_cons_self).1
    rw [endsAuthority, Bool.or_assoc, Bool.or_eq_false_iff] at hends
    rw [List.dropWhile_cons_of_pos (by decide), List.dropWhile_cons_of_pos (by decide)]
    exact List.dropWhile_cons_of_neg (by rw [hends.1]; exact Bool.false_ne_true)
  · rw [(h.chars c hc).1]
    rfl
  · rw [htarget] at hc
    cases hc
    rfl

/-- **What is read behind a host does not depend on the scheme and the host**, if there is a host
at all. -/
theorem parse?_append {scheme host target : List Char} (hscheme : IsScheme scheme)
    (hhost : IsHostText host) (htarget : target.head? = some '/')
    (hpadding : ∀ c ∈ target, isPadding c = false) :
    parse? (scheme ++ (host ++ target)) =
      if isAuthority host then some (readTarget target) else none := by
  obtain ⟨hskip, hauthority, hrest⟩ := hhost.cut_authority htarget
  have hne : target ≠ [] := by
    rintro rfl
    cases htarget
  rw [parse?, clean_address hscheme hhost hne hpadding, afterScheme?_append hscheme]
  simp only [hskip, hauthority, hrest]
  rfl

/-! ## Readers of addresses -/

theorem Parts.IsPlain.head?_target {parts : Parts} (h : parts.IsPlain) :
    parts.target.head? = some '/' := by
  obtain ⟨rest, hpath⟩ := h.path.exists_cons
  rw [Parts.target, hpath]
  rfl

/-- What the standard promises of a reader of addresses, as far as it is relied on: path and query
come out resolved and escaped, and behind a host they are made of what stands there, whatever the
scheme and the host are. -/
structure IsReader (address : List Char → Option Parts) : Prop where
  plain : ∀ {text parts}, address text = some parts → parts.IsPlain
  behind_host : ∀ {scheme host target parts}, IsScheme scheme → IsHostText host →
    target.head? = some '/' → (∀ c ∈ target, isPadding c = false) →
    address (scheme ++ (host ++ target)) = some parts → parts = readTarget target

theorem isReader_parse? : IsReader parse? where
  plain := isPlain_of_parse?
  behind_host hscheme hhost htarget hpadding hparts := by
    rw [parse?_append hscheme hhost htarget hpadding] at hparts
    exact (Option.some.inj (Option.ite_none_right_eq_some.mp hparts).2).symm

/-- Plain parts behind a host are read as they are. -/
theorem IsReader.eq_of_isPlain {address : List Char → Option Parts} (h : IsReader address)
    {scheme host : List Char} {parts read : Parts} (hscheme : IsScheme scheme)
    (hhost : IsHostText host) (hplain : parts.IsPlain)
    (hread : address (scheme ++ (host ++ parts.target)) = some read) : read = parts := by
  rw [h.behind_host hscheme hhost hplain.head?_target
    (fun c hc => not_isPadding_of_mem_target hplain hc) hread, readTarget_target hplain]

end Url
end SiteServer
