import Mathlib.Data.List.Basic
import SiteServer.Proofs.Text.Reading
import SiteServer.Text.Cuts

/-!
# Searching a text

The first occurrence of a word in a text, found among the characters or among the octets.

* `Text.place?_eq_some_iff`, `Text.place?_eq_none_iff`: what `place?` finds.
* `Text.afterFirst?_eq_some_iff`: what follows the first occurrence.
* `Utf8.exists_of_occurs`: octets that spell a word occur in the octets of a text only where the
  word occurs in the text.  The first octet of a character tells that a character begins there.
* `Utf8.place?_encodeChars`: so both searches find the same.
* `Utf8.cut_append`: a text may be cut between any two of its characters.
-/

namespace SiteServer
namespace Text

section Places

variable {α : Type} [BEq α] [LawfulBEq α] {word text front rest : List α} {place : Nat}

theorem place?_cons_of_not {c : α} (h : ¬word <+: c :: text) :
    place? word (c :: text) = (place? word text).map (· + 1) := by
  rw [place?, if_neg (fun hfront => h (List.isPrefixOf_iff_prefix.mp hfront))]

theorem place?_of_front (h : word <+: text) : place? word text = some 0 := by
  cases text with
  | nil =>
    rw [place?, List.prefix_nil.mp h]
    rfl
  | cons c text => rw [place?, if_pos (List.isPrefixOf_iff_prefix.mpr h)]

/-- The search finds the first occurrence, with what stands before and behind it. -/
theorem place?_eq_some_iff :
    place? word text = some place ↔
      ∃ front rest, text = front ++ word ++ rest ∧ front.length = place ∧
        ∀ other, other ++ word <+: text → place ≤ other.length := by
  induction text generalizing place with
  | nil =>
    cases word with
    | nil => simp [place?, eq_comm]
    | cons c word => simp [place?]
  | cons c text ih =>
    by_cases hfront : word <+: c :: text
    · rw [place?_of_front hfront]
      constructor
      · intro h
        obtain rfl := Option.some.inj h
        obtain ⟨rest, hrest⟩ := hfront
        exact ⟨[], rest, hrest.symm, rfl, fun _ _ => Nat.zero_le _⟩
      · rintro ⟨front, rest, -, -, hfirst⟩
        exact congrArg some (Nat.le_zero.mp (hfirst [] hfront)).symm
    · rw [place?_cons_of_not hfront, Option.map_eq_some_iff]
      constructor
      · rintro ⟨place, hplace, rfl⟩
        obtain ⟨front, rest, rfl, rfl, hfirst⟩ := ih.mp hplace
        refine ⟨c :: front, rest, rfl, rfl, fun other hother => ?_⟩
        cases other with
        | nil => exact absurd hother hfront
        | cons d other => exact Nat.succ_le_succ (hfirst other (List.cons_prefix_cons.mp hother).2)
      · rintro ⟨front, rest, htext, rfl, hfirst⟩
        cases front with
        | nil => exact absurd ⟨rest, htext.symm⟩ hfront
        | cons d front =>
          obtain ⟨rfl, rfl⟩ := List.cons.inj htext
          refine ⟨front.length, ih.mpr ⟨front, rest, rfl, rfl, fun other hother => ?_⟩, rfl⟩
          exact Nat.le_of_succ_le_succ
            (hfirst (c :: other) (List.cons_prefix_cons.mpr ⟨rfl, hother⟩))

/-- A text consists of what stands before the place that was found, the word and what stands behind
it. -/
theorem exists_parts_of_place? (h : place? word text = some place) :
    ∃ front rest, text = front ++ word ++ rest ∧ text.take place = front ∧
      text.drop (place + word.length) = rest := by
  obtain ⟨front, rest, rfl, rfl, -⟩ := place?_eq_some_iff.mp h
  refine ⟨front, rest, rfl, ?_, ?_⟩
  · rw [List.append_assoc, List.take_left]
  · rw [← List.length_append, List.drop_left]

/-- Nothing is found exactly if the word does not occur. -/
theorem place?_eq_none_iff : place? word text = none ↔ ∀ other, ¬other ++ word <+: text := by
  induction text with
  | nil =>
    cases word with
    | nil => simp [place?]
    | cons c word => simp [place?]
  | cons c text ih =>
    by_cases hfront : word <+: c :: text
    · rw [place?_of_front hfront]
      exact iff_of_false nofun fun h => h [] hfront
    · rw [place?_cons_of_not hfront, Option.map_eq_none_iff, ih]
      constructor
      · intro h other hother
        cases other with
        | nil => exact hfront hother
        | cons d other => exact h other (List.cons_prefix_cons.mp hother).2
      · intro h other hother
        exact h (c :: other) (List.cons_prefix_cons.mpr ⟨rfl, hother⟩)

end Places

/-! ## Among the characters -/

/-- What follows the first occurrence of a word stands behind its place. -/
theorem afterFirst?_eq_place? (word text : List Char) :
    afterFirst? word text = (place? word text).map fun n => text.drop (n + word.length) := by
  induction text with
  | nil => cases word <;> rfl
  | cons c text ih =>
    rw [afterFirst?, place?, ih]
    split
    · rw [Option.map_some, Nat.zero_add]
    · rw [Option.map_map]
      refine congrArg (Option.map · _) (funext fun n => ?_)
      rw [Function.comp_apply, Nat.add_right_comm, List.drop_succ_cons]

/-- A text is cut once at the first place of the separator. -/
theorem splitOnce?_eq_place? (c : Char) (text : List Char) :
    splitOnce? (· = c) text = (place? [c] text).map fun n => (text.take n, text.drop (n + 1)) := by
  induction text with
  | nil => rfl
  | cons d text ih =>
    rw [splitOnce?, place?, ih]
    by_cases hd : d = c
    · simp [hd]
    · simp [hd, Ne.symm hd, Function.comp_def]

theorem afterFirst?_eq_some_iff {word text rest : List Char} :
    afterFirst? word text = some rest ↔
      ∃ front, text = front ++ word ++ rest ∧
        ∀ other, other ++ word <+: text → front.length ≤ other.length := by
  rw [afterFirst?_eq_place?, Option.map_eq_some_iff]
  constructor
  · rintro ⟨place, hplace, rfl⟩
    obtain ⟨front, rest, rfl, rfl, hfirst⟩ := place?_eq_some_iff.mp hplace
    refine ⟨front, ?_, hfirst⟩
    rw [← List.length_append, List.drop_left]
  · rintro ⟨front, rfl, hfirst⟩
    refine ⟨front.length, place?_eq_some_iff.mpr ⟨front, rest, rfl, rfl, hfirst⟩, ?_⟩
    rw [← List.length_append, List.drop_left]

theorem splitOnce?_eq_some_iff {c : Char} {text front rest : List Char} :
    splitOnce? (· = c) text = some (front, rest) ↔ text = front ++ c :: rest ∧ c ∉ front := by
  constructor
  · intro h
    rw [splitOnce?_eq_place?, Option.map_eq_some_iff] at h
    obtain ⟨place, hplace, heq⟩ := h
    obtain ⟨before, after, rfl, rfl, hfirst⟩ := place?_eq_some_iff.mp hplace
    have hcut : before ++ [c] ++ after = before ++ c :: after := List.append_cons .. |>.symm
    rw [hcut, List.take_left, ← List.drop_drop, List.drop_left, List.drop_succ_cons,
      List.drop_zero] at heq
    obtain ⟨rfl, rfl⟩ := Prod.mk.inj heq
    refine ⟨hcut, fun hc => ?_⟩
    obtain ⟨front, later, rfl⟩ := List.append_of_mem hc
    have hsooner := hfirst front ⟨later ++ [c] ++ after, by simp⟩
    rw [List.length_append, List.length_cons] at hsooner
    omega
  · rintro ⟨rfl, hfront⟩
    exact splitOnce?_append_sep (not_sep_of_not_mem hfront) (decide_eq_true rfl) rest

end Text

namespace Utf8

variable {word text front : List Char} {octets : Bytes}

/-! ## Where characters begin -/

/-- Only the first octet of a character can begin one. -/
theorem encodeChar_eq_cons (c : Char) :
    ∃ a tails, encodeChar c = a :: tails ∧ isTail a = false ∧ ∀ b ∈ tails, isTail b = true := by
  have bound := toNat_lt c
  have hlead : ∀ n, n < 0x80 ∨ 0xC0 ≤ n ∧ n < 0x100 → isTail (UInt8.ofNat n) = false := by
    intro n hn
    rw [isTail, UInt8.toNat_ofNat', Bool.and_eq_false_iff, decide_eq_false_iff_not,
      decide_eq_false_iff_not]
    omega
  have htail : ∀ n, 0x80 ≤ n → n < 0xC0 → isTail (UInt8.ofNat n) = true := by
    intro n hlow hhigh
    rw [isTail, UInt8.toNat_ofNat', Bool.and_eq_true, decide_eq_true_eq, decide_eq_true_eq]
    omega
  unfold encodeChar
  dsimp only
  split
  · exact ⟨_, _, rfl, hlead _ (by omega), List.forall_mem_nil _⟩
  split
  · exact ⟨_, _, rfl, hlead _ (by omega),
      List.forall_mem_singleton.mpr (htail _ (by omega) (by omega))⟩
  split
  · exact ⟨_, _, rfl, hlead _ (by omega), List.forall_mem_cons.mpr ⟨htail _ (by omega) (by omega),
      List.forall_mem_singleton.mpr (htail _ (by omega) (by omega))⟩⟩
  · exact ⟨_, _, rfl, hlead _ (by omega), List.forall_mem_cons.mpr ⟨htail _ (by omega) (by omega),
      List.forall_mem_cons.mpr ⟨htail _ (by omega) (by omega),
        List.forall_mem_singleton.mpr (htail _ (by omega) (by omega))⟩⟩⟩

/-- A text may be cut between any two of its characters. -/
theorem isSeam_append (front rest : List Char) :
    isSeam (encodeChars front ++ encodeChars rest) (encodeChars front).length = true := by
  rw [isSeam, Bool.or_eq_true]
  refine Or.inr ?_
  rw [List.getElem?_append_right (Nat.le_refl _), Nat.sub_self]
  cases rest with
  | nil => simp
  | cons c rest =>
    obtain ⟨a, tails, hc, ha, -⟩ := encodeChar_eq_cons c
    simp [hc, ha]

theorem cut_append (front rest : List Char) :
    cut (encodeChars front ++ encodeChars rest) (encodeChars front).length
      = .ok (encodeChars front, encodeChars rest) := by
  rw [cut, if_pos (isSeam_append front rest), List.take_left, List.drop_left]

theorem cut_behind (front word rest : List Char) :
    cut (encodeChars (front ++ word ++ rest)) ((encodeChars front).length + (encodeChars word).length)
      = .ok (encodeChars (front ++ word), encodeChars rest) := by
  rw [encodeChars_append (front ++ word), ← List.length_append, ← encodeChars_append front,
    cut_append]

/-! ## Among the octets -/

theorem decodeChars_encodeChars_append (text : List Char) (rest : Bytes) :
    decodeChars (encodeChars text ++ rest) = (decodeChars rest).map (text ++ ·) := by
  induction text with
  | nil => simp
  | cons c text ih =>
    rw [encodeChars_cons, List.append_assoc, decodeChars_encodeChar_append, ih, Option.map_map]
    rfl

/-- Octets that begin a text and spell a word are the beginning of the text. -/
theorem encodeChars_prefix_iff : encodeChars word <+: encodeChars text ↔ word <+: text := by
  constructor
  · rintro ⟨rest, hrest⟩
    have hread := decodeChars_encodeChars text
    rw [← hrest, decodeChars_encodeChars_append] at hread
    obtain ⟨after, -, rfl⟩ := Option.map_eq_some_iff.mp hread
    exact List.prefix_append word after
  · rintro ⟨rest, rfl⟩
    rw [encodeChars_append]
    exact List.prefix_append _ _

/-- No word begins within a character, of which only the first octet begins one. -/
theorem encodeChar_prefix_of_occurs {c : Char} {b : UInt8} {rest : Bytes} (hword : word ≠ [])
    (h : b :: octets ++ encodeChars word <+: encodeChar c ++ rest) :
    encodeChar c <+: b :: octets := by
  have hchar : encodeChar c <+: encodeChar c ++ rest := List.prefix_append _ _
  have hfront : b :: octets <+: encodeChar c ++ rest := (List.prefix_append _ _).trans h
  rcases List.prefix_or_prefix_of_prefix hchar hfront with hwhole | ⟨within, hwithin⟩
  · exact hwhole
  cases within with
  | nil => exact ⟨[], by rw [← hwithin, List.append_nil, List.append_nil]⟩
  | cons t within =>
    obtain ⟨a, tails, hc, -, htails⟩ := encodeChar_eq_cons c
    obtain ⟨d, word, rfl⟩ := List.exists_cons_of_ne_nil hword
    obtain ⟨a', tails', hd, ha', -⟩ := encodeChar_eq_cons d
    -- the octet with which the word begins would be one of the tails of the character
    rw [← hwithin, List.append_assoc, List.prefix_append_right_inj, encodeChars_cons, hd] at h
    have hsame : a' = t := (List.cons_prefix_cons.mp h).1
    have htail : isTail t = true := by
      rw [hc, List.cons_append] at hwithin
      refine htails t ?_
      rw [← (List.cons.inj hwithin).2]
      exact List.mem_append_right _ List.mem_cons_self
    rw [← hsame, ha'] at htail
    cases htail

/-- Octets that spell a word occur in a text only where the word occurs. -/
theorem exists_of_occurs (hword : word ≠ []) (h : octets ++ encodeChars word <+: encodeChars text) :
    ∃ other, octets = encodeChars other ∧ other ++ word <+: text := by
  induction text generalizing octets with
  | nil =>
    have hnil := (List.append_eq_nil_iff.mp (List.prefix_nil.mp h)).2
    exact absurd hnil (encodeChars_ne_nil hword)
  | cons c text ih =>
    cases octets with
    | nil => exact ⟨[], rfl, encodeChars_prefix_iff.mp h⟩
    | cons b octets =>
      rw [encodeChars_cons] at h
      obtain ⟨rest, hrest⟩ := encodeChar_prefix_of_occurs hword h
      rw [← hrest, List.append_assoc, List.prefix_append_right_inj] at h
      obtain ⟨other, rfl, hother⟩ := ih h
      exact ⟨c :: other, hrest.symm, List.cons_prefix_cons.mpr ⟨rfl, hother⟩⟩

/-- The search among the octets finds what the search among the characters finds. -/
theorem place?_encodeChars (hword : word ≠ []) (text : List Char) :
    Text.place? (encodeChars word) (encodeChars text)
      = (Text.place? word text).map fun n => (encodeChars (text.take n)).length := by
  cases hplace : Text.place? word text with
  | none =>
    refine Text.place?_eq_none_iff.mpr fun octets hoctets => ?_
    obtain ⟨other, -, hother⟩ := exists_of_occurs hword hoctets
    exact Text.place?_eq_none_iff.mp hplace other hother
  | some place =>
    obtain ⟨front, rest, rfl, rfl, hfirst⟩ := Text.place?_eq_some_iff.mp hplace
    rw [Option.map_some, List.append_assoc front, List.take_left, ← List.append_assoc]
    refine Text.place?_eq_some_iff.mpr ⟨encodeChars front, encodeChars rest, ?_, rfl, ?_⟩
    · rw [encodeChars_append, encodeChars_append]
    · intro octets hoctets
      obtain ⟨other, rfl, hother⟩ := exists_of_occurs hword hoctets
      have hprefix : front <+: other :=
        List.prefix_of_prefix_length_le ⟨word ++ rest, (List.append_assoc ..).symm⟩
          ((List.prefix_append other word).trans hother) (hfirst other hother)
      exact (encodeChars_prefix_iff.mpr hprefix).length_le

end Utf8
end SiteServer
