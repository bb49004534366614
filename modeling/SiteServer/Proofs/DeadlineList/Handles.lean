import Mathlib.Data.List.Induction
import SiteServer.Proofs.DeadlineList.Order

/-!
# Deeds and what becomes of them

A ledger answers to every deed what a diary answers, as long as no more entries are added
than there are generations.

* `Ledger.Keeps`: the list holds the entries of the diary, each under the handle that was
  given out for it.  No handle was given out twice, because a slot counts the handles that
  were given out for it (`DeadlineList.given`).
* `Ledger.Keeps.perform`, `Ledger.Keeps.run`: one deed and any number of deeds.
* `Diary.Dated`: entries with the same deadline stand in the order in which it was set.
-/

namespace SiteServer
namespace Agenda

variable {κ ι α : Type} {f : κ → ι} {g : Agenda κ α}

/-! ## Entries under other names -/

theorem rename_insert (f : κ → ι) (a : Appointment κ α) (g : Agenda κ α) :
    (g.insert a).rename f = (g.rename f).insert ⟨f a.id, a.deadline, a.payload⟩ := by
  induction g with
  | nil => rfl
  | cons b g ih =>
    simp only [insert, rename, List.map_cons] at ih ⊢
    split
    · rfl
    · rw [List.map_cons, ih]

theorem rename_due (f : κ → ι) (g : Agenda κ α) (now : Nat) :
    rename f (g.due now) = (g.rename f).due now := by
  simp only [rename, due, List.takeWhile_map]
  rfl

theorem rename_afterTick (f : κ → ι) (g : Agenda κ α) (now : Nat) :
    (g.afterTick now).rename f = (g.rename f).afterTick now := by
  simp only [rename, afterTick, List.dropWhile_map]
  rfl

theorem rename_congr {f f' : κ → ι} (h : ∀ a ∈ g, f a.id = f' a.id) :
    g.rename f = g.rename f' :=
  List.map_congr_left fun a ha => by rw [h a ha]

theorem payloads_rename (f : κ → ι) (g : Agenda κ α) :
    (g.rename f).map (·.payload) = g.map (·.payload) := by
  rw [rename, List.map_map]
  rfl

theorem mem_of_mem_erase [DecidableEq κ] {a : Appointment κ α} {id : κ} (h : a ∈ g.erase id) :
    a ∈ g :=
  List.mem_of_mem_filter h

variable [DecidableEq κ] [DecidableEq ι] {id : κ} {name : ι}

/-- An entry is found under its other name. -/
theorem find?_rename (f : κ → ι) (h : ∀ a ∈ g, f a.id = name ↔ a.id = id) :
    (g.rename f).find? name = (g.find? id).map fun a => ⟨f a.id, a.deadline, a.payload⟩ := by
  induction g with
  | nil => rfl
  | cons a g ih =>
    have hg := ih fun b hb => h b (List.mem_cons_of_mem a hb)
    have ha := h a List.mem_cons_self
    unfold find? rename at hg ⊢
    by_cases hid : a.id = id
    · rw [List.map_cons, List.find?_cons_of_pos (by simpa using ha.mpr hid),
        List.find?_cons_of_pos (by simpa using hid), Option.map_some]
    · have hname : f a.id ≠ name := fun heq => hid (ha.mp heq)
      simpa [hid, hname] using hg

theorem erase_rename (h : ∀ a ∈ g, f a.id = name ↔ a.id = id) :
    (g.rename f).erase name = (g.erase id).rename f := by
  unfold erase rename
  rw [List.filter_map]
  congr 1
  refine List.filter_congr fun a ha => ?_
  simp [h a ha]

theorem reschedule_rename (h : ∀ a ∈ g, f a.id = name ↔ a.id = id) (deadline : Nat) :
    (g.rename f).reschedule name deadline = (g.reschedule id deadline).rename f := by
  unfold reschedule
  rw [find?_rename f h]
  cases g.find? id with
  | none => rfl
  | some a => rw [Option.map_some, rename_insert, erase_rename h]

/-- Rescheduling brings in no new names. -/
theorem id_mem_of_mem_reschedule {a : Appointment κ α} {deadline : Nat} {names : List κ}
    (h : ∀ b ∈ g, b.id ∈ names) (ha : a ∈ g.reschedule id deadline) : a.id ∈ names := by
  unfold reschedule at ha
  cases hfind : g.find? id with
  | none =>
    rw [hfind] at ha
    exact h a ha
  | some b =>
    rw [hfind] at ha
    rcases mem_insert.mp ha with rfl | ha
    · exact h b (List.mem_of_find?_eq_some hfind)
    · exact h a (mem_of_mem_erase ha)

end Agenda

/-! ## One deed after another -/

namespace Deed

variable {α : Type}

theorem insertions_cons (deed : Deed α) (deeds : List (Deed α)) :
    insertions (deed :: deeds) = insertions deeds + if deed.isInsert then 1 else 0 :=
  List.countP_cons

end Deed

namespace Ledger

variable {α : Type} {s : Ledger α} {d : Diary α} {g : Agenda DeadlineId α}

/-- A ledger that agrees with a diary: the list holds `g`, which are the entries of the diary
under the handles that were given out for them. -/
structure Keeps (s : Ledger α) (d : Diary α) (g : Agenda DeadlineId α) : Prop where
  represents : s.list.Represents g
  known : ∀ a ∈ g, a.id ∈ s.ids
  agenda_eq : g.rename s.ids.idxOf = d.agenda
  count_eq : d.count = s.ids.length
  nodup : s.ids.Nodup
  given_le : ∀ i, s.list.given i ≤ s.ids.length
  generation_lt : ∀ id ∈ s.ids, id.generation.toNat < s.list.given id.index

theorem keeps_empty : Keeps ({} : Ledger α) {} [] where
  represents := DeadlineList.represents_empty
  known := List.forall_mem_nil _
  agenda_eq := rfl
  count_eq := rfl
  nodup := List.nodup_nil
  given_le := fun _ => Nat.le_refl 0
  generation_lt := List.forall_mem_nil _

/-- The list may change as long as no handle is given out. -/
theorem Keeps.keep (h : Keeps s d g) {l : DeadlineList α} {g' : Agenda DeadlineId α}
    {agenda : Agenda Nat α} (hrepresents : l.Represents g') (hknown : ∀ a ∈ g', a.id ∈ s.ids)
    (hagenda : g'.rename s.ids.idxOf = agenda) (hgiven : ∀ i, l.given i = s.list.given i) :
    Keeps { s with list := l } { d with agenda } g' where
  represents := hrepresents
  known := hknown
  agenda_eq := hagenda
  count_eq := h.count_eq
  nodup := h.nodup
  given_le := fun i => by
    rw [hgiven]
    exact h.given_le i
  generation_lt := fun id hid => by
    rw [hgiven]
    exact h.generation_lt id hid

/-- The handles that were given out tell the entries apart. -/
theorem Keeps.idxOf_eq_iff (h : Keeps s d g) {entry : Nat} {id : DeadlineId}
    (hid : s.ids[entry]? = some id) :
    ∀ a ∈ g, s.ids.idxOf a.id = entry ↔ a.id = id := by
  obtain ⟨hlt, rfl⟩ := List.getElem?_eq_some_iff.mp hid
  intro a ha
  constructor
  · rintro rfl
    rw [List.getElem_idxOf]
  · intro heq
    rw [heq, h.nodup.idxOf_getElem entry hlt]

theorem Keeps.id_lt (h : Keeps s d g) : ∀ a ∈ d.agenda, a.id < s.ids.length := by
  rw [← h.agenda_eq]
  intro a ha
  obtain ⟨b, hb, rfl⟩ := List.mem_map.mp ha
  exact List.idxOf_lt_length_iff.mpr (h.known b hb)

theorem Keeps.id_ne (h : Keeps s d g) {entry : Nat} (hid : s.ids[entry]? = none) :
    ∀ a ∈ d.agenda, a.id ≠ entry := by
  intro a ha heq
  have hlt := h.id_lt a ha
  have hle := List.getElem?_eq_none_iff.mp hid
  omega

/-- What the diary finds under a number the list has under the handle. -/
theorem Keeps.find?_eq (h : Keeps s d g) {entry : Nat} {id : DeadlineId}
    (hid : s.ids[entry]? = some id) :
    d.agenda.find? entry
      = (g.find? id).map fun a => ⟨s.ids.idxOf a.id, a.deadline, a.payload⟩ := by
  rw [← h.agenda_eq]
  exact Agenda.find?_rename _ (h.idxOf_eq_iff hid)

/-- One deed: the list answers what the agenda answers. -/
theorem Keeps.perform (h : Keeps s d g) (hroom : s.ids.length < 0x100000000) (deed : Deed α) :
    ∃ s' g', s.perform deed = some ((d.perform deed).1, s') ∧ Keeps s' (d.perform deed).2 g' ∧
      s'.ids.length = s.ids.length + if deed.isInsert then 1 else 0 := by
  have hbound : ∀ i, s.list.given i < 0x100000000 := fun i =>
    Nat.lt_of_le_of_lt (h.given_le i) hroom
  cases deed with
  | insert deadline payload =>
    obtain ⟨id, l, hinsert, hrepresents, hgeneration, hgiven⟩ :=
      h.represents.insert deadline payload
    have hnew : id ∉ s.ids := fun hid => by
      have := h.generation_lt id hid
      omega
    refine ⟨⟨l, s.ids ++ [id]⟩, g.insert ⟨id, deadline, payload⟩, ?_, ⟨hrepresents, ?_, ?_, ?_, ?_,
      ?_, ?_⟩, ?_⟩
    · simp only [Ledger.perform, hinsert, Option.map_some, Diary.perform]
    · intro a ha
      rcases Agenda.mem_insert.mp ha with rfl | ha
      · exact List.mem_append_right _ (List.mem_singleton_self _)
      · exact List.mem_append_left _ (h.known a ha)
    · have hsame : g.rename (s.ids ++ [id]).idxOf = g.rename s.ids.idxOf :=
        Agenda.rename_congr fun a ha => List.idxOf_append_of_mem (h.known a ha)
      rw [Agenda.rename_insert, hsame, h.agenda_eq, List.idxOf_append_of_notMem hnew,
        Diary.perform, h.count_eq]
      simp
    · rw [Diary.perform, List.length_append, h.count_eq]
      rfl
    · exact h.nodup.append (List.nodup_singleton id) (by simpa using hnew)
    · intro i
      have := h.given_le i
      rw [hgiven, List.length_append, List.length_singleton]
      split <;> omega
    · intro other hother
      rw [hgiven]
      rcases List.mem_append.mp hother with hother | hother
      · have := h.generation_lt other hother
        omega
      · rw [List.mem_singleton.mp hother, if_pos rfl, hgeneration]
        exact Nat.lt_succ_self _
    · rw [List.length_append]
      rfl
  | reschedule entry deadline =>
    rcases hid : s.ids[entry]? with _ | id
    · have hnone := h.id_ne hid
      refine ⟨s, g, ?_, ?_, rfl⟩
      · simp [Ledger.perform, hid, Diary.perform, Agenda.find?_eq_none hnone]
      · simpa [Diary.perform, Agenda.reschedule, Agenda.find?_eq_none hnone] using h
    · obtain ⟨l, hl, hrepresents, hgiven⟩ := h.represents.reschedule id deadline
      refine ⟨{ s with list := l }, g.reschedule id deadline, ?_,
        h.keep hrepresents (fun a ha => Agenda.id_mem_of_mem_reschedule h.known ha) ?_ hgiven, rfl⟩
      · simp [Ledger.perform, hid, hl, Diary.perform, h.find?_eq hid]
      · rw [← h.agenda_eq, Agenda.reschedule_rename (h.idxOf_eq_iff hid)]
  | remove entry =>
    rcases hid : s.ids[entry]? with _ | id
    · have hnone := h.id_ne hid
      refine ⟨s, g, ?_, ?_, rfl⟩
      · simp [Ledger.perform, hid, Diary.perform, Agenda.find?_eq_none hnone]
      · simpa [Diary.perform, Agenda.erase_eq_self hnone] using h
    · obtain ⟨l, hl, hrepresents, hgiven⟩ := h.represents.remove id
      refine ⟨{ s with list := l }, g.erase id, ?_,
        h.keep hrepresents (fun a ha => h.known a (Agenda.mem_of_mem_erase ha)) ?_
          (hgiven hbound), rfl⟩
      · simp [Ledger.perform, hid, hl, Diary.perform, h.find?_eq hid, Function.comp_def]
      · rw [← h.agenda_eq, Agenda.erase_rename (h.idxOf_eq_iff hid)]
  | tick now =>
    obtain ⟨l, hl, hrepresents, hgiven⟩ := h.represents.takeDue now
    refine ⟨{ s with list := l }, g.afterTick now, ?_,
      h.keep hrepresents (fun a ha => h.known a (List.dropWhile_subset _ ha)) ?_
        (hgiven hbound), rfl⟩
    · simp only [Ledger.perform, hl, Option.map_some, Diary.perform]
      rw [← h.agenda_eq, ← Agenda.rename_due, Agenda.payloads_rename]
    · rw [← h.agenda_eq, Agenda.rename_afterTick]

/-- Any number of deeds: the list answers what the agenda answers. -/
theorem Keeps.run (h : Keeps s d g) (deeds : List (Deed α))
    (hroom : s.ids.length + Deed.insertions deeds < 0x100000000) :
    ∃ s' g', s.run deeds = some ((d.run deeds).1, s') ∧ Keeps s' (d.run deeds).2 g' := by
  induction deeds generalizing s d g with
  | nil => exact ⟨s, g, rfl, h⟩
  | cons deed deeds ih =>
    rw [Deed.insertions_cons] at hroom
    obtain ⟨s₁, g₁, hperform, hkeeps₁, hlength⟩ := h.perform (by omega) deed
    obtain ⟨s₂, g₂, hrun, hkeeps₂⟩ := ih hkeeps₁ (by omega)
    exact ⟨s₂, g₂, by simp [Ledger.run, hperform, hrun, Diary.run], hkeeps₂⟩

end Ledger

/-! ## The order in which deadlines were set -/

namespace Deed

variable {α : Type} {deeds : List (Deed α)} {deed : Deed α} {place entry : Nat}

theorem insertions_concat (deeds : List (Deed α)) (deed : Deed α) :
    insertions (deeds ++ [deed]) = insertions deeds + if deed.isInsert then 1 else 0 := by
  rw [insertions, List.countP_append, List.countP_singleton]
  rfl

theorem LastSet.lt_length (h : LastSet deeds place entry) : place < deeds.length := by
  obtain ⟨⟨deed, hdeed, -⟩, -⟩ := h
  exact (List.getElem?_eq_some_iff.mp hdeed).1

theorem LastSet.concat (h : LastSet deeds place entry)
    (hdeed : ¬deed.Sets (insertions deeds) entry) : LastSet (deeds ++ [deed]) place entry := by
  have hlt := h.lt_length
  obtain ⟨⟨set, hset, hsets⟩, hlast⟩ := h
  refine ⟨⟨set, ?_, ?_⟩, fun later other hlater hother => ?_⟩
  · rwa [List.getElem?_append_left hlt]
  · rwa [List.take_append_of_le_length (Nat.le_of_lt hlt)]
  · rcases Nat.lt_trichotomy later deeds.length with hbelow | rfl | habove
    · rw [List.getElem?_append_left hbelow] at hother
      rw [List.take_append_of_le_length (Nat.le_of_lt hbelow)]
      exact hlast later other hlater hother
    · rw [List.getElem?_concat_length] at hother
      rw [List.take_left, ← Option.some_inj.mp hother]
      exact hdeed
    · have hlength := (List.getElem?_eq_some_iff.mp hother).1
      rw [List.length_append, List.length_singleton] at hlength
      omega

theorem lastSet_length (hdeed : deed.Sets (insertions deeds) entry) :
    LastSet (deeds ++ [deed]) deeds.length entry := by
  refine ⟨⟨deed, List.getElem?_concat_length, ?_⟩, fun later other hlater hother => ?_⟩
  · rwa [List.take_left]
  · have hlength := (List.getElem?_eq_some_iff.mp hother).1
    rw [List.length_append, List.length_singleton] at hlength
    omega

theorem Sooner.deadline_le {a b : Appointment Nat α} (h : Sooner deeds a b) :
    a.deadline ≤ b.deadline :=
  h.elim Nat.le_of_lt fun h => Nat.le_of_eq h.1

end Deed

namespace Agenda

variable {α : Type} {g : Agenda Nat α}

/-- A relation that an added entry has with those before and behind it. -/
theorem pairwise_insert {R : Appointment Nat α → Appointment Nat α → Prop} {a : Appointment Nat α}
    (hg : g.Pairwise R) (hascending : g.Ascending)
    (hbefore : ∀ b ∈ g, b.deadline ≤ a.deadline → R b a)
    (hafter : ∀ b ∈ g, a.deadline < b.deadline → R a b) : (g.insert a).Pairwise R := by
  induction g with
  | nil => exact List.pairwise_singleton _ _
  | cons b g ih =>
    obtain ⟨hb, hg⟩ := List.pairwise_cons.mp hg
    obtain ⟨hle, hascending⟩ := List.pairwise_cons.mp hascending
    unfold insert
    split
    case isTrue hlater =>
      refine List.pairwise_cons.mpr ⟨fun c hc => ?_, List.pairwise_cons.mpr ⟨hb, hg⟩⟩
      refine hafter c hc ?_
      rcases List.mem_cons.mp hc with rfl | hc
      · exact hlater
      · exact Nat.lt_of_lt_of_le hlater (hle c hc)
    case isFalse hlater =>
      refine List.pairwise_cons.mpr ⟨fun c hc => ?_, ih hg hascending
        (fun c hc => hbefore c (List.mem_cons_of_mem b hc))
        fun c hc => hafter c (List.mem_cons_of_mem b hc)⟩
      rcases mem_insert.mp hc with rfl | hc
      · exact hbefore b List.mem_cons_self (Nat.not_lt.mp hlater)
      · exact hb c hc

end Agenda

namespace Diary

variable {α : Type} {d : Diary α} {deeds : List (Deed α)}

theorem run_concat (d : Diary α) (deeds : List (Deed α)) (deed : Deed α) :
    (d.run (deeds ++ [deed])).2 = ((d.run deeds).2.perform deed).2 := by
  induction deeds generalizing d with
  | nil => rfl
  | cons first deeds ih => exact ih _

/-- Every entry had its deadline set by one of the deeds, and entries with the same deadline
stand in the order in which it was set. -/
structure Dated (deeds : List (Deed α)) (d : Diary α) : Prop where
  count_eq : d.count = Deed.insertions deeds
  id_lt : ∀ a ∈ d.agenda, a.id < d.count
  set : ∀ a ∈ d.agenda, ∃ place, Deed.LastSet deeds place a.id
  sooner : d.agenda.Pairwise (Deed.Sooner deeds)

theorem Dated.ascending (h : Dated deeds d) : d.agenda.Ascending :=
  h.sooner.imp Deed.Sooner.deadline_le

/-- A deed that leaves the deadlines of some entries alone leaves them in their order. -/
theorem Dated.sooner_concat (h : Dated deeds d) {g : Agenda Nat α} (deed : Deed α)
    (hsub : g.Sublist d.agenda) (hleft : ∀ a ∈ g, ¬deed.Sets (Deed.insertions deeds) a.id) :
    (∀ a ∈ g, ∃ place, Deed.LastSet (deeds ++ [deed]) place a.id) ∧
      g.Pairwise (Deed.Sooner (deeds ++ [deed])) := by
  constructor
  · intro a ha
    obtain ⟨place, hplace⟩ := h.set a (hsub.subset ha)
    exact ⟨place, hplace.concat (hleft a ha)⟩
  · refine (h.sooner.sublist hsub).imp_of_mem fun {a b} ha hb hsooner => ?_
    rcases hsooner with hlt | ⟨heq, place, later, hlater, hplaceA, hplaceB⟩
    · exact Or.inl hlt
    · exact Or.inr ⟨heq, place, later, hlater, hplaceA.concat (hleft a ha),
        hplaceB.concat (hleft b hb)⟩

/-- An entry whose deadline the deed sets comes behind those with the same deadline. -/
theorem Dated.sooner_insert (h : Dated deeds d) {g : Agenda Nat α} (deed : Deed α)
    {a : Appointment Nat α} (hsub : g.Sublist d.agenda)
    (hleft : ∀ b ∈ g, ¬deed.Sets (Deed.insertions deeds) b.id)
    (hsets : deed.Sets (Deed.insertions deeds) a.id) :
    (∀ b ∈ g.insert a, ∃ place, Deed.LastSet (deeds ++ [deed]) place b.id) ∧
      (g.insert a).Pairwise (Deed.Sooner (deeds ++ [deed])) := by
  obtain ⟨hset, hsooner⟩ := h.sooner_concat deed hsub hleft
  have hlast := Deed.lastSet_length hsets
  constructor
  · intro b hb
    rcases Agenda.mem_insert.mp hb with rfl | hb
    · exact ⟨_, hlast⟩
    · exact hset b hb
  · refine Agenda.pairwise_insert hsooner (h.ascending.sublist hsub) (fun b hb hle => ?_)
      fun b _ hlt => Or.inl hlt
    rcases Nat.lt_or_eq_of_le hle with hlt | heq
    · exact Or.inl hlt
    · obtain ⟨place, hplace⟩ := h.set b (hsub.subset hb)
      exact Or.inr ⟨heq, place, _, hplace.lt_length, hplace.concat (hleft b hb), hlast⟩

theorem Dated.perform (h : Dated deeds d) (deed : Deed α) :
    Dated (deeds ++ [deed]) (d.perform deed).2 := by
  cases deed with
  | insert deadline payload =>
    have hold : ∀ b ∈ d.agenda,
        ¬(Deed.insert deadline payload).Sets (Deed.insertions deeds) b.id := fun b hb heq => by
      have := h.id_lt b hb
      rw [h.count_eq] at this
      exact Nat.ne_of_lt this heq
    obtain ⟨hset, hsooner⟩ := h.sooner_insert _ (a := ⟨d.count, deadline, payload⟩)
      (List.Sublist.refl _) hold h.count_eq
    refine ⟨?_, fun a ha => ?_, hset, hsooner⟩
    · rw [Deed.insertions_concat, ← h.count_eq]
      rfl
    · rcases Agenda.mem_insert.mp ha with rfl | ha
      · exact Nat.lt_succ_self _
      · exact Nat.lt_succ_of_lt (h.id_lt a ha)
  | reschedule entry deadline =>
    have hcount : d.count = Deed.insertions (deeds ++ [Deed.reschedule entry deadline]) :=
      h.count_eq.trans (by rw [Deed.insertions_concat]; rfl)
    cases hfind : d.agenda.find? entry with
    | none =>
      have hleft : ∀ a ∈ d.agenda, a.id ≠ entry := by
        simpa [Agenda.find?] using hfind
      obtain ⟨hset, hsooner⟩ := h.sooner_concat (.reschedule entry deadline)
        (List.Sublist.refl _) hleft
      have hsame : (d.perform (.reschedule entry deadline)).2 = d := by
        simp only [Diary.perform, Agenda.reschedule, hfind]
      rw [hsame]
      exact ⟨hcount, h.id_lt, hset, hsooner⟩
    | some a =>
      have hid : a.id = entry := by simpa using List.find?_some hfind
      have hleft : ∀ b ∈ d.agenda.erase entry, b.id ≠ entry := fun b hb => by
        simpa using List.of_mem_filter hb
      obtain ⟨hset, hsooner⟩ := h.sooner_insert (.reschedule entry deadline)
        (a := { a with deadline := deadline }) List.filter_sublist hleft hid
      have hsame : (d.perform (.reschedule entry deadline)).2.agenda
          = (d.agenda.erase entry).insert { a with deadline := deadline } := by
        simp only [Diary.perform, Agenda.reschedule, hfind]
      refine ⟨hcount, fun b hb => ?_, by rwa [hsame], by rwa [hsame]⟩
      rw [hsame] at hb
      rcases Agenda.mem_insert.mp hb with rfl | hb
      · exact h.id_lt a (List.mem_of_find?_eq_some hfind)
      · exact h.id_lt b (Agenda.mem_of_mem_erase hb)
  | remove entry =>
    obtain ⟨hset, hsooner⟩ := h.sooner_concat (.remove entry)
      (g := d.agenda.erase entry) List.filter_sublist fun _ _ hsets => hsets
    exact ⟨h.count_eq.trans (by rw [Deed.insertions_concat]; rfl),
      fun a ha => h.id_lt a (Agenda.mem_of_mem_erase ha), hset, hsooner⟩
  | tick now =>
    obtain ⟨hset, hsooner⟩ := h.sooner_concat (.tick now)
      (g := d.agenda.afterTick now) (List.dropWhile_sublist _) fun _ _ hsets => hsets
    exact ⟨h.count_eq.trans (by rw [Deed.insertions_concat]; rfl),
      fun a ha => h.id_lt a (List.dropWhile_subset _ ha), hset, hsooner⟩

theorem dated_run (deeds : List (Deed α)) : Dated deeds (({} : Diary α).run deeds).2 := by
  induction deeds using List.reverseRecOn with
  | nil => exact ⟨rfl, List.forall_mem_nil _, List.forall_mem_nil _, List.Pairwise.nil⟩
  | append_singleton deeds deed ih =>
    rw [run_concat]
    exact ih.perform deed

end Diary

/-! ## Ledgers agree with diaries -/

namespace Ledger

variable {α : Type}

/-- Whatever is done to a list of deadlines, it answers what an agenda answers and holds what
the agenda holds, in ascending order and those with the same deadline in the order in which it
was set, as long as fewer entries are added than there are generations. -/
theorem run_eq_diary (deeds : List (Deed α)) (h : Deed.insertions deeds < 0x100000000) :
    ∃ s g, ({} : Ledger α).run deeds = some ((({} : Diary α).run deeds).1, s) ∧
      s.list.entries = some g ∧ s.ids.Nodup ∧ (∀ a ∈ g, a.id ∈ s.ids) ∧
      g.rename s.ids.idxOf = (({} : Diary α).run deeds).2.agenda ∧
      (({} : Diary α).run deeds).2.agenda.Ascending ∧
      (({} : Diary α).run deeds).2.agenda.Pairwise (Deed.Sooner deeds) ∧
      s.list.size = (({} : Diary α).run deeds).2.agenda.length ∧
      s.list.firstDeadline? = (({} : Diary α).run deeds).2.agenda.head?.map (·.deadline) ∧
      s.list.deadlines = some ((({} : Diary α).run deeds).2.agenda.map (·.deadline)) := by
  have hroom : ({} : Ledger α).ids.length + Deed.insertions deeds < 0x100000000 := by
    rw [List.length_nil, Nat.zero_add]
    exact h
  obtain ⟨s, g, hrun, hkeeps⟩ := keeps_empty.run deeds hroom
  have hdated := Diary.dated_run deeds
  refine ⟨s, g, hrun, hkeeps.represents.entries, hkeeps.nodup, hkeeps.known, hkeeps.agenda_eq,
    hdated.ascending, hdated.sooner, ?_, ?_, ?_⟩
  · rw [← hkeeps.agenda_eq, Agenda.rename, List.length_map]
    exact hkeeps.represents.size_eq
  · rw [← hkeeps.agenda_eq, Agenda.rename, List.head?_map, Option.map_map]
    exact hkeeps.represents.firstDeadline?
  · rw [← hkeeps.agenda_eq, Agenda.rename, List.map_map]
    exact hkeeps.represents.deadlines

/-- Of two entries with one deadline the one that was rescheduled fires last. -/
theorem run_eq_diary_of_rescheduled :
    Deed.insertions [.insert 5 'a', .insert 5 'b', .reschedule 0 5, .tick 5] < 0x100000000 ∧
      ∃ s, ({} : Ledger Char).run [.insert 5 'a', .insert 5 'b', .reschedule 0 5, .tick 5]
        = some ([.added, .added, .moved true, .fired ['b', 'a']], s) ∧ s.list.size = 0 := by
  refine ⟨by decide, ?_⟩
  obtain ⟨s, g, hrun, -, -, -, -, -, -, hsize, -, -⟩ :=
    run_eq_diary [.insert 5 'a', .insert 5 'b', .reschedule 0 5, .tick 5] (by decide)
  exact ⟨s, hrun, hsize⟩

end Ledger
end SiteServer
