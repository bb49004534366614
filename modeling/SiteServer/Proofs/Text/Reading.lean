import Mathlib.Data.List.Basic
import Mathlib.Data.List.TakeWhile
import SiteServer.Text.Unsigned
import SiteServer.Text.Words

/-!
# What is read in a text

The operations on text that requests are read with go from the left to the right and drop
what they have seen.  Here is what each of them finds, said by how the text is put together.

* `trim_eq_iff`: taking separators off both ends (`Trimmed`).
* `words_eq_iff`: the maximal runs without separators (`Runs`).
* `afterIgnoreCase?_eq_some_iff`: what follows a word written in any case.
* `readUnsigned_eq_ok_iff`: decimal numbers up to a limit (`Writes`).
* `decimal?_toString`: a number reads back from its decimal digits.
-/

namespace SiteServer
namespace Text

section Separators

variable {α : Type} {sep : α → Bool} {cs v w : List α} {ws : List (List α)}

/-! ## Both ends -/

/-- `v` stands in `cs` between separators, and neither begins nor ends with one. -/
def Trimmed (sep : α → Bool) (cs v : List α) : Prop :=
  ∃ before after, cs = before ++ v ++ after ∧
    (∀ c ∈ before, sep c = true) ∧ (∀ c ∈ after, sep c = true) ∧
    (∀ c ∈ v.head?, sep c = false) ∧ (∀ c ∈ v.getLast?, sep c = false)

theorem not_sep_of_head?_dropWhile (cs : List α) {c : α} (h : c ∈ (cs.dropWhile sep).head?) :
    sep c = false := by
  have hnot := List.head?_dropWhile_not sep cs
  rw [Option.mem_def.mp h] at hnot
  exact hnot

theorem dropWhile_of_head? (h : ∀ c ∈ cs.head?, sep c = false) : cs.dropWhile sep = cs := by
  cases cs with
  | nil => rfl
  | cons c cs =>
    have hc : sep c = false := h c rfl
    exact List.dropWhile_cons_of_neg (by rw [hc]; exact Bool.false_ne_true)

/-- Both parts of a text are found where the one ends and the other begins. -/
theorem takeWhile_dropWhile_append {front rest : List α} (hfront : ∀ c ∈ front, sep c = true)
    (hrest : ∀ c ∈ rest.head?, sep c = false) :
    (front ++ rest).takeWhile sep = front ∧ (front ++ rest).dropWhile sep = rest := by
  have hdrop : (front ++ rest).dropWhile sep = rest := by
    rw [List.dropWhile_append_of_pos hfront, dropWhile_of_head? hrest]
  have hall := List.takeWhile_append_dropWhile (p := sep) (l := front ++ rest)
  rw [hdrop] at hall
  exact ⟨List.append_cancel_right hall, hdrop⟩

theorem trimmed_trim (sep : α → Bool) (cs : List α) : Trimmed sep cs (trim sep cs) := by
  have hcs : cs = cs.takeWhile sep ++ cs.dropWhile sep := List.takeWhile_append_dropWhile.symm
  have hrest : cs.dropWhile sep
      = trim sep cs ++ ((cs.dropWhile sep).reverse.takeWhile sep).reverse := by
    rw [trim, ← List.reverse_append, List.takeWhile_append_dropWhile, List.reverse_reverse]
  refine ⟨cs.takeWhile sep, ((cs.dropWhile sep).reverse.takeWhile sep).reverse, ?_, ?_, ?_, ?_,
    ?_⟩
  · rw [List.append_assoc, ← hrest]
    exact hcs
  · exact fun c hc => List.mem_takeWhile_imp hc
  · exact fun c hc => List.mem_takeWhile_imp (List.mem_reverse.mp hc)
  · intro c hc
    refine not_sep_of_head?_dropWhile cs ?_
    rw [hrest, List.head?_append, Option.mem_def.mp hc]
    rfl
  · intro c hc
    rw [trim, List.getLast?_reverse] at hc
    exact not_sep_of_head?_dropWhile _ hc

/-- Trimming finds what stands between the separators at both ends. -/
theorem trim_eq_iff : trim sep cs = v ↔ Trimmed sep cs v := by
  refine ⟨fun h => h ▸ trimmed_trim sep cs, ?_⟩
  rintro ⟨before, after, rfl, hbefore, hafter, hhead, hlast⟩
  rw [trim, List.append_assoc, List.dropWhile_append_of_pos hbefore]
  cases v with
  | nil =>
    rw [List.nil_append, List.dropWhile_eq_nil_iff.mpr hafter]
    rfl
  | cons c v =>
    have hfront : (c :: v ++ after).dropWhile sep = c :: v ++ after :=
      dropWhile_of_head? fun x hx => hhead x hx
    have hback : (c :: v).reverse.dropWhile sep = (c :: v).reverse := by
      refine dropWhile_of_head? fun x hx => hlast x ?_
      rwa [List.head?_reverse] at hx
    rw [hfront, List.reverse_append, List.dropWhile_append_of_pos, hback, List.reverse_reverse]
    exact fun x hx => hafter x (List.mem_reverse.mp hx)

/-! ## Runs -/

/-- The maximal runs without separators in a list are these, in this order. -/
inductive Runs (sep : α → Bool) : List α → List (List α) → Prop
  | nil {cs : List α} : (∀ c ∈ cs, sep c = true) → Runs sep cs []
  | cons {before w rest : List α} {ws : List (List α)} :
      (∀ c ∈ before, sep c = true) → w ≠ [] → (∀ c ∈ w, sep c = false) →
      (∀ c ∈ rest.head?, sep c = true) → Runs sep rest ws →
      Runs sep (before ++ w ++ rest) (w :: ws)

theorem words_append_of_sep {before : List α} (h : ∀ c ∈ before, sep c = true) (cs : List α) :
    words sep (before ++ cs) = words sep cs := by
  induction before with
  | nil => rfl
  | cons c before ih =>
    have hc : sep c = true := h c (List.mem_cons_self ..)
    rw [List.cons_append, words, split, if_pos hc]
    exact ih fun x hx => h x (List.mem_cons_of_mem _ hx)

theorem not_sep_of_not_mem {c : Char} {cs : List Char} (h : c ∉ cs) :
    ∀ x ∈ cs, decide (x = c) = false :=
  fun _ hx => decide_eq_false fun heq => h (heq ▸ hx)

/-- A list is cut at every separator by itself. -/
theorem split_append_cons_sep (cs : List α) {s : α} (hs : sep s = true) (rest : List α) :
    split sep (cs ++ s :: rest) = split sep cs ++ split sep rest := by
  induction cs with
  | nil => simp [split, hs]
  | cons c cs ih =>
    obtain ⟨piece, pieces, hpieces⟩ := List.exists_cons_of_ne_nil (split_ne_nil sep cs)
    rw [List.cons_append, split, ih, split, hpieces]
    split <;> rfl

theorem split_append_sep (hw : ∀ c ∈ w, sep c = false) {s : α} (hs : sep s = true)
    (rest : List α) : split sep (w ++ s :: rest) = w :: split sep rest := by
  rw [split_append_cons_sep w hs, split_eq_singleton hw]
  rfl

/-- What is no separator goes to the first piece of what follows. -/
theorem split_append (hw : ∀ c ∈ w, sep c = false) (cs : List α) :
    split sep (w ++ cs) = (split sep cs).modifyHead (w ++ ·) := by
  obtain ⟨piece, pieces, hpieces⟩ := List.exists_cons_of_ne_nil (split_ne_nil sep cs)
  induction w with
  | nil => simp [hpieces]
  | cons c w ih =>
    have hc : sep c = false := hw c (List.mem_cons_self ..)
    rw [List.cons_append, split, hc, if_neg Bool.false_ne_true,
      ih fun x hx => hw x (List.mem_cons_of_mem _ hx), hpieces]
    rfl

/-- A list is cut once at its first separator. -/
theorem splitOnce?_append_sep (hw : ∀ c ∈ w, sep c = false) {s : α} (hs : sep s = true)
    (rest : List α) : splitOnce? sep (w ++ s :: rest) = some (w, rest) := by
  induction w with
  | nil => rw [List.nil_append, splitOnce?, if_pos hs]
  | cons c w ih =>
    have hc : sep c = false := hw c (List.mem_cons_self ..)
    rw [List.cons_append, splitOnce?, hc, if_neg Bool.false_ne_true,
      ih fun x hx => hw x (List.mem_cons_of_mem _ hx)]
    rfl

/-- A text that holds a separator is cut there, whatever stands behind it. -/
theorem splitOnce?_append_of_some {cs front rest : List α}
    (h : splitOnce? sep cs = some (front, rest)) (more : List α) :
    splitOnce? sep (cs ++ more) = some (front, rest ++ more) := by
  induction cs generalizing front with
  | nil => cases h
  | cons c cs ih =>
    rw [splitOnce?] at h
    rw [List.cons_append, splitOnce?]
    split at h
    case isTrue hc =>
      obtain ⟨rfl, rfl⟩ := Prod.mk.inj (Option.some.inj h)
      rw [if_pos hc]
    case isFalse hc =>
      obtain ⟨⟨front', rest'⟩, hcut, heq⟩ := Option.map_eq_some_iff.mp h
      obtain ⟨rfl, rfl⟩ := Prod.mk.inj heq
      rw [if_neg hc, ih hcut]
      rfl

/-- A text that is not cut holds no separator. -/
theorem not_sep_of_splitOnce?_eq_none {cs : List α}
    (h : splitOnce? sep cs = none) : ∀ c ∈ cs, sep c = false := by
  induction cs with
  | nil => exact List.forall_mem_nil _
  | cons c cs ih =>
    rw [splitOnce?] at h
    split at h
    case isTrue => cases h
    case isFalse hc =>
      exact List.forall_mem_cons.mpr ⟨by simpa using hc, ih (Option.map_eq_none_iff.mp h)⟩

/-- A run that is followed by a separator, or by nothing, is a word. -/
theorem words_append_of_run (hne : w ≠ []) (hw : ∀ c ∈ w, sep c = false) {rest : List α}
    (hrest : ∀ c ∈ rest.head?, sep c = true) : words sep (w ++ rest) = w :: words sep rest := by
  have hkept : ∀ vs : List (List α), (w :: vs).filter (fun v => !v.isEmpty)
      = w :: vs.filter fun v => !v.isEmpty :=
    fun vs => List.filter_cons_of_pos (by simp [hne])
  cases rest with
  | nil =>
    rw [List.append_nil, words, split_eq_singleton hw, hkept]
    rfl
  | cons s rest =>
    have hs : sep s = true := hrest s rfl
    rw [words, split_append_sep hw hs, hkept, words, split, if_pos hs]
    rfl

theorem runs_words (sep : α → Bool) (cs : List α) : Runs sep cs (words sep cs) := by
  -- by the length of the list: each run takes something off it
  induction hn : cs.length using Nat.strong_induction_on generalizing cs with
  | _ n ih =>
    have hcs : cs = cs.takeWhile sep ++ cs.dropWhile sep :=
      List.takeWhile_append_dropWhile.symm
    have hbefore : ∀ c ∈ cs.takeWhile sep, sep c = true := fun c hc => List.mem_takeWhile_imp hc
    have hwords : words sep cs = words sep (cs.dropWhile sep) := by
      rw [← words_append_of_sep hbefore (cs.dropWhile sep), ← hcs]
    cases hmid : cs.dropWhile sep with
    | nil =>
      rw [hwords, hmid]
      exact .nil (List.dropWhile_eq_nil_iff.mp hmid)
    | cons c mid =>
      have hc : sep c = false :=
        not_sep_of_head?_dropWhile cs (by rw [hmid]; rfl)
      have hsplit : c :: mid = (c :: mid).takeWhile (fun x => !sep x)
          ++ (c :: mid).dropWhile (fun x => !sep x) := List.takeWhile_append_dropWhile.symm
      generalize hrun : (c :: mid).takeWhile (fun x => !sep x) = run at hsplit
      generalize hrest : (c :: mid).dropWhile (fun x => !sep x) = rest at hsplit
      have hne : run ≠ [] := by
        rw [← hrun, List.takeWhile_cons_of_pos (by rw [hc]; rfl)]
        exact List.cons_ne_nil _ _
      have hfree : ∀ x ∈ run, sep x = false := by
        intro x hx
        rw [← hrun] at hx
        simpa using List.mem_takeWhile_imp hx
      have hnext : ∀ x ∈ rest.head?, sep x = true := by
        intro x hx
        rw [← hrest] at hx
        simpa using not_sep_of_head?_dropWhile _ hx
      have hlength : rest.length < n := by
        have hcount := congrArg List.length hsplit
        have hmore := congrArg List.length hcs
        have hpos := List.length_pos_iff.mpr hne
        rw [hmid] at hmore
        rw [List.length_append] at hcount hmore
        omega
      rw [hwords, hmid, hsplit, words_append_of_run hne hfree hnext]
      rw [hmid, hsplit, ← List.append_assoc] at hcs
      rw [hcs]
      exact .cons hbefore hne hfree hnext (ih rest.length hlength rest rfl)

/-- The words of a list are its maximal runs without separators. -/
theorem words_eq_iff : words sep cs = ws ↔ Runs sep cs ws := by
  refine ⟨fun h => h ▸ runs_words sep cs, fun h => ?_⟩
  induction h with
  | nil hcs =>
    have hall := words_append_of_sep hcs []
    rw [List.append_nil] at hall
    rw [hall]
    rfl
  | cons hbefore hne hw hnext _ ih =>
    rw [List.append_assoc, words_append_of_sep hbefore, words_append_of_run hne hw hnext, ih]

end Separators

/-! ## Words in any case -/

theorem length_eq_of_eqIgnoreCase {xs ys : List Char} (h : eqIgnoreCase xs ys = true) :
    xs.length = ys.length := by
  have hlengths := congrArg List.length (eq_of_beq h)
  rwa [List.length_map, List.length_map] at hlengths

/-- Below the small letters the case makes no difference. -/
theorem toLower_eq_self {c : Char} (h : c.toLower < 'a') : c.toLower = c := by
  unfold Char.toLower at h ⊢
  split at h
  case isTrue hupper =>
    have hlow : 65 ≤ c.val.toNat := hupper.1
    have hhigh : c.val.toNat ≤ 90 := hupper.2
    have hlt : (c.val + 32).toNat < 97 := h
    rw [UInt32.toNat_add, Nat.mod_eq_of_lt] at hlt
    all_goals have h32 : (32 : UInt32).toNat = 32 := rfl
    all_goals omega
  case isFalse hupper => rw [dif_neg hupper]

/-- A text without letters is written in one way, whatever the case. -/
theorem eq_of_eqIgnoreCase {xs ys : List Char} (h : eqIgnoreCase xs ys = true)
    (hys : ∀ c ∈ ys, c.toLower < 'a') : xs = ys := by
  have hsame : xs.map Char.toLower = ys.map Char.toLower := eq_of_beq h
  have hself : ∀ {zs : List Char}, (∀ c ∈ zs, c.toLower < 'a') → zs.map Char.toLower = zs :=
    fun hzs => (List.map_congr_left fun c hc => toLower_eq_self (hzs c hc)).trans (List.map_id _)
  have hxs : ∀ c ∈ xs, c.toLower < 'a' := by
    intro c hc
    have hmem : c.toLower ∈ ys.map Char.toLower := hsame ▸ List.mem_map_of_mem hc
    obtain ⟨y, hy, heq⟩ := List.mem_map.mp hmem
    exact heq ▸ hys y hy
  rw [← hself hxs, hsame, hself hys]

/-- What equals two texts in a row comes in two parts. -/
theorem exists_of_eqIgnoreCase_append {text xs ys : List Char}
    (h : eqIgnoreCase text (xs ++ ys) = true) :
    ∃ first rest, text = first ++ rest ∧ eqIgnoreCase first xs = true ∧
      eqIgnoreCase rest ys = true := by
  have hsame := eq_of_beq h
  rw [List.map_append] at hsame
  obtain ⟨first, rest, htext, hfirst, hrest⟩ := List.map_eq_append_iff.mp hsame
  exact ⟨first, rest, htext, beq_iff_eq.mpr hfirst, beq_iff_eq.mpr hrest⟩

theorem afterIgnoreCase?_eq_some_iff {word text rest : List Char} :
    afterIgnoreCase? word text = some rest ↔
      ∃ first, text = first ++ rest ∧ eqIgnoreCase first word = true := by
  unfold afterIgnoreCase?
  constructor
  · intro h
    split at h
    case isTrue hsame =>
      cases h
      exact ⟨text.take word.length, (List.take_append_drop _ _).symm, hsame⟩
    case isFalse => cases h
  · rintro ⟨first, rfl, hsame⟩
    rw [← length_eq_of_eqIgnoreCase hsame, List.take_left, List.drop_left, if_pos hsame]

/-! ## Numbers -/

/-- The text is the number in decimal digits, of which there is at least one, with a plus
sign in front of them or without. -/
def Writes (value : List Char) (n : Nat) : Prop :=
  ∃ digits, (value = digits ∨ value = '+' :: digits) ∧ digits ≠ [] ∧
    (∀ c ∈ digits, '0' ≤ c ∧ c ≤ '9') ∧ decimalNumber digits = n

theorem le_foldl_digits (value : Nat) (digits : List Char) :
    value ≤ digits.foldl (fun n c => n * 10 + (digit? c).getD 0) value := by
  induction digits generalizing value with
  | nil => exact Nat.le_refl _
  | cons c digits ih =>
    have hstep : value ≤ value * 10 + (digit? c).getD 0 := by omega
    exact Nat.le_trans hstep (ih _)

theorem readDigits_eq_ok_iff {limit value n : Nat} {cs : List Char} (hvalue : value ≤ limit) :
    readDigits limit value cs = .ok n ↔
      (∀ c ∈ cs, '0' ≤ c ∧ c ≤ '9') ∧
        cs.foldl (fun n c => n * 10 + (digit? c).getD 0) value = n ∧ n ≤ limit := by
  induction cs generalizing value with
  | nil =>
    constructor
    · intro h
      cases h
      exact ⟨nofun, rfl, hvalue⟩
    · rintro ⟨-, rfl, -⟩
      rfl
  | cons c cs ih =>
    by_cases hc : '0' ≤ c ∧ c ≤ '9'
    · have hdigit : digit? c = some (c.toNat - 48) := if_pos hc
      rw [readDigits, hdigit, List.foldl_cons, hdigit, Option.getD_some, List.forall_mem_cons]
      by_cases hfits : value * 10 + (c.toNat - 48) ≤ limit
      · simp only [if_pos hfits, ih hfits, hc, true_and]
      · simp only [if_neg hfits]
        refine iff_of_false nofun ?_
        rintro ⟨-, hfold, hn⟩
        have hle := le_foldl_digits (value * 10 + (c.toNat - 48)) cs
        omega
    · have hdigit : digit? c = none := if_neg hc
      rw [readDigits, hdigit]
      exact iff_of_false nofun fun h => hc (h.1 c (List.mem_cons_self ..))

theorem readUnsigned_of_ne_plus {limit : Nat} {c : Char} (h : c ≠ '+') (cs : List Char) :
    readUnsigned limit (c :: cs) = readDigits limit 0 (c :: cs) := by
  unfold readUnsigned
  split
  case h_1 heq => cases heq
  case h_2 heq =>
    cases heq
    exact absurd rfl h
  case h_3 heq =>
    cases heq
    exact absurd rfl h
  case h_4 heq =>
    cases heq
    rfl

/-- A number that is not too large is read as what it writes. -/
theorem readUnsigned_eq_ok_iff {limit n : Nat} {value : List Char} :
    readUnsigned limit value = .ok n ↔ Writes value n ∧ n ≤ limit := by
  have hread : ∀ {cs}, cs ≠ [] → (readDigits limit 0 cs = .ok n ↔
      (cs ≠ [] ∧ (∀ c ∈ cs, '0' ≤ c ∧ c ≤ '9') ∧ decimalNumber cs = n) ∧ n ≤ limit) := by
    intro cs hne
    rw [readDigits_eq_ok_iff (Nat.zero_le _)]
    exact ⟨fun ⟨hall, hfold, hn⟩ => ⟨⟨hne, hall, hfold⟩, hn⟩,
      fun ⟨⟨_, hall, hfold⟩, hn⟩ => ⟨hall, hfold, hn⟩⟩
  have hplus : ¬ ('0' ≤ '+' ∧ '+' ≤ '9') := by decide
  constructor
  · intro h
    unfold readUnsigned at h
    split at h
    case h_1 => cases h
    case h_2 => cases h
    case h_3 c cs =>
      obtain ⟨hdigits, hn⟩ := (hread (List.cons_ne_nil _ _)).mp h
      exact ⟨⟨c :: cs, Or.inr rfl, hdigits⟩, hn⟩
    case h_4 c cs _ _ =>
      obtain ⟨hdigits, hn⟩ := (hread (List.cons_ne_nil _ _)).mp h
      exact ⟨⟨c :: cs, Or.inl rfl, hdigits⟩, hn⟩
  · rintro ⟨⟨digits, hvalue, hdigits⟩, hn⟩
    have h := (hread hdigits.1).mpr ⟨hdigits, hn⟩
    cases digits with
    | nil => exact absurd rfl hdigits.1
    | cons c cs =>
      rcases hvalue with rfl | rfl
      · have hne : c ≠ '+' := by
          rintro rfl
          exact hplus (hdigits.2.1 '+' (List.mem_cons_self ..))
        rw [readUnsigned_of_ne_plus hne]
        exact h
      · exact h

/-! ## Numbers of any size -/

theorem digit?_of_isDigit {c : Char} (h : c.isDigit = true) : digit? c = some (c.toNat - 48) := by
  rw [Char.isDigit, Bool.and_eq_true, decide_eq_true_eq, decide_eq_true_eq] at h
  exact if_pos h

theorem isDigit_of_mem_toString {n : Nat} {c : Char} (h : c ∈ (toString n).toList) :
    c.isDigit = true := by
  rw [Nat.toString_eq_repr, Nat.toList_repr] at h
  exact Nat.isDigit_of_mem_toDigits (by decide) (by decide) h

theorem not_mem_toString {c : Char} (h : c.isDigit = false) (n : Nat) :
    c ∉ (toString n).toList :=
  fun hmem => Bool.false_ne_true (h.symm.trans (isDigit_of_mem_toString hmem))

theorem toString_ne_nil (n : Nat) : (toString n).toList ≠ [] := by
  rw [Nat.toString_eq_repr, Nat.toList_repr]
  exact Nat.toDigits_ne_nil

theorem decimalNumber_toString (n : Nat) : decimalNumber (toString n).toList = n := by
  have hstep : ∀ m, ∀ c ∈ (toString n).toList,
      m * 10 + (digit? c).getD 0 = 10 * m + (c.toNat - '0'.toNat) := by
    intro m c hc
    rw [digit?_of_isDigit (isDigit_of_mem_toString hc), Nat.mul_comm]
    rfl
  calc decimalNumber (toString n).toList
      = Nat.ofDigitChars 10 (toString n).toList 0 := List.foldl_ext _ _ 0 hstep
    _ = Nat.ofDigitChars 10 (Nat.toDigits 10 n) 0 := by rw [Nat.toString_eq_repr, Nat.toList_repr]
    _ = n := Nat.ofDigitChars_ten_toDigits

/-- A number reads back from its decimal digits. -/
theorem decimal?_toString (n : Nat) : decimal? (toString n).toList = some n := by
  rw [decimal?, if_pos, decimalNumber_toString]
  refine ⟨toString_ne_nil n, List.all_eq_true.mpr fun c hc => ?_⟩
  rw [digit?_of_isDigit (isDigit_of_mem_toString hc)]
  rfl

end Text
end SiteServer
