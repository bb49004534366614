/-!
# Tables of keys

Values under keys that the table gives out.  A key that has been given back is given out
again, the one given back last first, and only when there is none is there a new key.
-/

namespace SiteServer

/-- Values under keys. -/
structure KeyTable (α : Type) where
  places : List (Option α) := []
  /-- The keys given back, the last in front. -/
  free : List Nat := []
  deriving DecidableEq, Repr

namespace KeyTable

variable {α : Type}

/-- The value under a key. -/
def get? (s : KeyTable α) (key : Nat) : Option α := (s.places[key]?).join

/-- The key that is given out next. -/
def nextKey (s : KeyTable α) : Nat := s.free.head?.getD s.places.length

/-- Adds a value under the next key. -/
def insert (s : KeyTable α) (a : α) : KeyTable α :=
  match s.free with
  | key :: free => { places := s.places.set key (some a), free }
  | [] => { s with places := s.places ++ [some a] }

/-- Changes the value under a key, if there is one. -/
def modify (s : KeyTable α) (key : Nat) (f : α → α) : KeyTable α :=
  match s.get? key with
  | some a => { s with places := s.places.set key (some (f a)) }
  | none => s

/-- Gives a key back, if there is a value under it. -/
def remove (s : KeyTable α) (key : Nat) : KeyTable α :=
  match s.get? key with
  | some _ => { places := s.places.set key none, free := key :: s.free }
  | none => s

/-- The keys with a value, in ascending order. -/
def keys (s : KeyTable α) : List Nat :=
  (List.range s.places.length).filter fun key => (s.get? key).isSome

/-- How many values there are. -/
def size (s : KeyTable α) : Nat := (s.places.filter Option.isSome).length

/-- The keys given back are keys without a value, and all of those, each once. -/
structure Sound (s : KeyTable α) : Prop where
  nodup : s.free.Nodup
  free_iff : ∀ key, key ∈ s.free ↔ s.places[key]? = some none

/-! ## What the operations do to the values -/

theorem sound_empty : ({} : KeyTable α).Sound := ⟨List.nodup_nil, by simp⟩

theorem get?_eq_some_iff {s : KeyTable α} {key : Nat} {a : α} :
    s.get? key = some a ↔ s.places[key]? = some (some a) := by
  simp [get?, Option.join_eq_some_iff]

theorem lt_of_get? {s : KeyTable α} {key : Nat} {a : α} (h : s.get? key = some a) :
    key < s.places.length := (List.getElem?_eq_some_iff.1 (get?_eq_some_iff.1 h)).1

/-- There is no value under the next key. -/
theorem get?_nextKey {s : KeyTable α} (hs : s.Sound) : s.get? s.nextKey = none := by
  unfold get? nextKey
  cases hf : s.free with
  | nil => simp
  | cons key free => simp [(hs.free_iff key).1 (by simp [hf])]

/-- An added value stands under the next key, and the others stay. -/
theorem get?_insert {s : KeyTable α} (hs : s.Sound) (a : α) (key : Nat) :
    (s.insert a).get? key = if key = s.nextKey then some a else s.get? key := by
  unfold insert nextKey get?
  cases hf : s.free with
  | nil =>
    simp only [List.head?_nil, Option.getD_none, List.getElem?_append]
    rcases Nat.lt_trichotomy key s.places.length with h | h | h
    · simp [h, Nat.ne_of_lt h]
    · simp [h]
    · have hne : ¬key < s.places.length := by omega
      have hne' : key ≠ s.places.length := by omega
      have hlast : [some a][key - s.places.length]? = none :=
        List.getElem?_eq_none (by simp; omega)
      simp [hne, hne', hlast]
  | cons k free =>
    have hk := (hs.free_iff k).1 (by simp [hf])
    have hlt : k < s.places.length := (List.getElem?_eq_some_iff.1 hk).1
    simp only [List.head?_cons, Option.getD_some, List.getElem?_set]
    split
    · rename_i h; subst h; simp
    · rename_i h; simp [Ne.symm h]

theorem get?_remove {s : KeyTable α} (key k : Nat) :
    (s.remove key).get? k = if k = key then none else s.get? k := by
  unfold remove
  split
  · rename_i a ha
    have hlt := lt_of_get? ha
    simp only [get?, List.getElem?_set]
    split
    · rename_i h; subst h; simp
    · rename_i h; simp [Ne.symm h]
  · rename_i h
    split
    · rename_i h2; subst h2; exact h
    · rfl

theorem get?_modify {s : KeyTable α} (key k : Nat) (f : α → α) :
    (s.modify key f).get? k = if k = key then (s.get? key).map f else s.get? k := by
  unfold modify
  split
  · rename_i a ha
    have hlt := lt_of_get? ha
    by_cases h : k = key
    · subst h
      rw [if_pos rfl, ha]
      simp [get?, hlt]
    · simp [get?, h, Ne.symm h]
  · rename_i h
    split
    · rename_i h2; subst h2; simp [h]
    · rfl

theorem get?_insert_eq_some {s : KeyTable α} (hs : s.Sound) {a b : α} {key : Nat} :
    (s.insert a).get? key = some b ↔
      (key = s.nextKey ∧ b = a) ∨ (key ≠ s.nextKey ∧ s.get? key = some b) := by
  rw [get?_insert hs]
  by_cases h : key = s.nextKey
  · simp [h, eq_comm]
  · simp [h]

theorem get?_remove_eq_some {s : KeyTable α} {key k : Nat} {a : α} :
    (s.remove key).get? k = some a ↔ k ≠ key ∧ s.get? k = some a := by
  rw [get?_remove]
  by_cases h : k = key <;> simp [h]

theorem get?_modify_eq_some {s : KeyTable α} {key k : Nat} {f : α → α} {b : α} :
    (s.modify key f).get? k = some b ↔
      ∃ a, s.get? k = some a ∧ b = if k = key then f a else a := by
  rw [get?_modify]
  by_cases h : k = key
  · subst h
    simp only [if_true, Option.map_eq_some_iff, eq_comm (a := b)]
  · simp [h]

theorem sound_insert {s : KeyTable α} (hs : s.Sound) (a : α) : (s.insert a).Sound := by
  unfold insert
  cases hf : s.free with
  | nil =>
    refine ⟨by simp, fun key => ?_⟩
    simp only [List.not_mem_nil, false_iff, List.getElem?_append]
    intro h
    split at h
    · exact absurd ((hs.free_iff key).2 h) (by simp [hf])
    · rcases Nat.eq_zero_or_pos (key - s.places.length) with h0 | h0
      · simp [h0] at h
      · rw [List.getElem?_eq_none (by simp; omega)] at h; cases h
  | cons k free =>
    have hn := hs.nodup
    rw [hf] at hn
    refine ⟨(List.nodup_cons.1 hn).2, fun key => ?_⟩
    have hk := (hs.free_iff k).1 (by simp [hf])
    have hlt : k < s.places.length := (List.getElem?_eq_some_iff.1 hk).1
    have h1 := hs.free_iff key
    rw [hf] at h1
    simp only [List.getElem?_set]
    split
    · rename_i h; subst h
      simp [(List.nodup_cons.1 hn).1]
    · rename_i h
      rw [← h1]
      simp [Ne.symm h]

theorem sound_remove {s : KeyTable α} (hs : s.Sound) (key : Nat) : (s.remove key).Sound := by
  unfold remove
  split
  · rename_i a ha
    have hlt := lt_of_get? ha
    have hnf : key ∉ s.free := by
      intro h
      have := (hs.free_iff key).1 h
      rw [get?_eq_some_iff.1 ha] at this
      cases this
    refine ⟨List.nodup_cons.2 ⟨hnf, hs.nodup⟩, fun k => ?_⟩
    simp only [List.mem_cons, List.getElem?_set, hs.free_iff k]
    split
    · rename_i h; subst h; simp
    · rename_i h; simp [Ne.symm h]
  · exact hs

theorem sound_modify {s : KeyTable α} (hs : s.Sound) (key : Nat) (f : α → α) :
    (s.modify key f).Sound := by
  unfold modify
  split
  · rename_i a ha
    refine ⟨hs.nodup, fun k => ?_⟩
    simp only [List.getElem?_set, hs.free_iff k]
    split
    · rename_i h; subst h
      rw [get?_eq_some_iff.1 ha]
      simp
    · rfl
  · exact hs

/-- What is removed may have been changed before. -/
theorem remove_modify (s : KeyTable α) (key : Nat) (f : α → α) :
    (s.modify key f).remove key = s.remove key := by
  cases hget : s.get? key with
  | none => simp only [modify, hget]
  | some a =>
    have hget' : (s.modify key f).get? key = some (f a) := by
      rw [get?_modify, if_pos rfl, hget]
      rfl
    rw [remove, hget', remove, hget]
    simp only [modify, hget, List.set_set]

/-! ## How many values there are -/

theorem size_eq_countP (s : KeyTable α) : s.size = s.places.countP Option.isSome :=
  List.countP_eq_length_filter.symm

theorem size_insert {s : KeyTable α} (hs : s.Sound) (a : α) :
    (s.insert a).size = s.size + 1 := by
  rw [size_eq_countP, size_eq_countP]
  unfold insert
  cases hf : s.free with
  | nil => simp [List.countP_append]
  | cons key free =>
    obtain ⟨hlt, hnone⟩ := List.getElem?_eq_some_iff.1 ((hs.free_iff key).1 (by simp [hf]))
    simp [List.countP_set hlt, hnone]

theorem size_remove {s : KeyTable α} {key : Nat} {a : α} (h : s.get? key = some a) :
    (s.remove key).size + 1 = s.size := by
  obtain ⟨hlt, hsome⟩ := List.getElem?_eq_some_iff.1 (get?_eq_some_iff.1 h)
  have hpos : 0 < s.places.countP Option.isSome :=
    List.countP_pos_iff.2 ⟨some a, hsome ▸ List.getElem_mem hlt, rfl⟩
  simp only [size_eq_countP, remove, h, List.countP_set hlt, hsome, Option.isSome_some,
    Option.isSome_none, if_true, Bool.false_eq_true, if_false]
  omega

theorem size_modify (s : KeyTable α) (key : Nat) (f : α → α) :
    (s.modify key f).size = s.size := by
  rw [size_eq_countP, size_eq_countP]
  unfold modify
  cases hget : s.get? key with
  | none => rfl
  | some a =>
    obtain ⟨hlt, hsome⟩ := List.getElem?_eq_some_iff.1 (get?_eq_some_iff.1 hget)
    have hpos : 0 < s.places.countP Option.isSome :=
      List.countP_pos_iff.2 ⟨some a, hsome ▸ List.getElem_mem hlt, rfl⟩
    simp only [List.countP_set hlt, hsome, Option.isSome_some, if_true]
    omega

theorem mem_keys {s : KeyTable α} {key : Nat} : key ∈ s.keys ↔ ∃ a, s.get? key = some a := by
  rw [keys, List.mem_filter, List.mem_range, Option.isSome_iff_exists]
  exact and_iff_right_of_imp fun ⟨_, h⟩ => lt_of_get? h

theorem nodup_keys (s : KeyTable α) : s.keys.Nodup := List.nodup_range.filter _

/-- There are as many values as keys with one. -/
theorem length_keys (s : KeyTable α) : s.keys.length = s.size := by
  have hplaces : s.places = (List.range s.places.length).map s.get? := by
    refine List.ext_getElem (by simp) fun key hlt _ => ?_
    simp [get?, hlt]
  rw [size, hplaces, List.filter_map, List.length_map]
  rfl

theorem size_eq_zero_iff {s : KeyTable α} : s.size = 0 ↔ ∀ key, s.get? key = none := by
  rw [← length_keys, List.length_eq_zero_iff, List.eq_nil_iff_forall_not_mem]
  simp only [mem_keys, not_exists, Option.eq_none_iff_forall_ne_some, ne_eq]

end KeyTable
end SiteServer
