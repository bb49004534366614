import SiteServer.Proofs.DeadlineList.Entries
import SiteServer.Proofs.DeadlineList.Extent
import SiteServer.Proofs.DeadlineList.Handles

/-!
# Where the payloads go

Every payload that was added is in the list or was handed out, and that once: by removing its
entry, or by one tick.

Payloads that look alike could be mistaken for one another.  So each is added a second time
together with the number of its entry (`Deed.numbered`), and the list, which does not look at
payloads, does to the pairs what it does to the payloads (`Diary.run_numbered`).

* `Diary.Traced`: every entry has the number that its payload carries, and no two have the
  same.
* `Diary.Traced.perform`: what a deed hands out and what it leaves are, together, what was there
  and what it adds; and a removal hands out the payload of its own entry.
* `Keeps.contains_iff`: a handle refers to an entry as long as the diary has the entry.
-/

namespace SiteServer

/-! ## Other payloads -/

namespace Deed

variable {α β : Type}

/-- The same deed with another payload. -/
def map (f : α → β) : Deed α → Deed β
  | insert deadline payload => insert deadline (f payload)
  | reschedule entry deadline => reschedule entry deadline
  | remove entry => remove entry
  | tick now => tick now

/-- What a deed adds. -/
def inserted : Deed α → List α
  | insert _ payload => [payload]
  | _ => []

/-- Deeds before which so many entries were added, each payload with the number of its entry. -/
def numberedFrom (count : Nat) : List (Deed α) → List (Deed (Nat × α))
  | [] => []
  | deed :: deeds =>
    deed.map (count, ·) :: numberedFrom (count + if deed.isInsert then 1 else 0) deeds

/-- Deeds with each payload next to the number of its entry. -/
def numbered (deeds : List (Deed α)) : List (Deed (Nat × α)) := numberedFrom 0 deeds

@[simp] theorem isInsert_map (f : α → β) (deed : Deed α) :
    (deed.map f).isInsert = deed.isInsert := by
  cases deed <;> rfl

theorem insertions_numberedFrom (count : Nat) (deeds : List (Deed α)) :
    insertions (numberedFrom count deeds) = insertions deeds := by
  induction deeds generalizing count with
  | nil => rfl
  | cons deed deeds ih =>
    rw [numberedFrom, insertions_cons, insertions_cons, ih, isInsert_map]

/-- The numbers are those of the entries. -/
theorem numbers_inserted (count : Nat) (deeds : List (Deed α)) :
    ((numberedFrom count deeds).flatMap inserted).map Prod.fst
      = List.range' count (insertions deeds) := by
  induction deeds generalizing count with
  | nil => rfl
  | cons deed deeds ih =>
    rw [numberedFrom, List.flatMap_cons, List.map_append, ih, insertions_cons]
    cases deed with
    | insert => rfl
    | reschedule | remove | tick => rfl

end Deed

namespace Reply

variable {α β : Type}

/-- The same reply with other payloads. -/
def map (f : α → β) : Reply α → Reply β
  | added => added
  | moved found => moved found
  | removed payload => removed (payload.map f)
  | fired payloads => fired (payloads.map f)

/-- The payloads that a reply hands out. -/
def handedOut : Reply α → List α
  | removed payload => payload.toList
  | fired payloads => payloads
  | _ => []

/-- Whether a reply is one to the deed: what a removal hands out is the payload of its own
entry. -/
def Answers : Deed (Nat × α) → Reply (Nat × α) → Prop
  | .insert _ _, added => True
  | .reschedule _ _, moved _ => True
  | .remove entry, removed payload => ∀ p ∈ payload, p.1 = entry
  | .tick _, fired _ => True
  | _, _ => False

end Reply

/-- The same entry with another payload. -/
def Appointment.map {κ α β : Type} (f : α → β) (a : Appointment κ α) : Appointment κ β :=
  ⟨a.id, a.deadline, f a.payload⟩

namespace Agenda

variable {κ α β : Type} {a : Appointment κ α} {g : Agenda κ α}

/-- The same entries with other payloads. -/
def mapPayloads (f : α → β) (g : Agenda κ α) : Agenda κ β := g.map (Appointment.map f)

theorem insert_mapPayloads (f : α → β) (a : Appointment κ α) (g : Agenda κ α) :
    (g.insert a).mapPayloads f = (g.mapPayloads f).insert (a.map f) := by
  induction g with
  | nil => rfl
  | cons b g ih =>
    simp only [insert, mapPayloads, List.map_cons, Appointment.map] at ih ⊢
    split
    · rfl
    · rw [List.map_cons, ih]
      rfl

theorem due_mapPayloads (f : α → β) (g : Agenda κ α) (now : Nat) :
    (g.mapPayloads f).due now = (g.due now).map (Appointment.map f) :=
  List.takeWhile_map ..

theorem afterTick_mapPayloads (f : α → β) (g : Agenda κ α) (now : Nat) :
    (g.mapPayloads f).afterTick now = (g.afterTick now).mapPayloads f :=
  List.dropWhile_map ..

theorem insert_perm (a : Appointment κ α) (g : Agenda κ α) : (g.insert a).Perm (a :: g) := by
  rw [insert_eq]
  refine List.perm_middle.trans (List.Perm.cons a ?_)
  rw [List.takeWhile_append_dropWhile]

variable [DecidableEq κ] {id : κ}

theorem find?_mapPayloads (f : α → β) (g : Agenda κ α) (id : κ) :
    (g.mapPayloads f).find? id = (g.find? id).map (Appointment.map f) :=
  List.find?_map

theorem erase_mapPayloads (f : α → β) (g : Agenda κ α) (id : κ) :
    (g.mapPayloads f).erase id = (g.erase id).mapPayloads f :=
  List.filter_map

theorem reschedule_mapPayloads (f : α → β) (g : Agenda κ α) (id : κ) (deadline : Nat) :
    (g.mapPayloads f).reschedule id deadline = (g.reschedule id deadline).mapPayloads f := by
  unfold reschedule
  rw [find?_mapPayloads]
  cases g.find? id with
  | none => rfl
  | some a =>
    rw [Option.map_some, insert_mapPayloads, ← erase_mapPayloads]
    rfl

/-- An entry that was found is in the agenda once. -/
theorem perm_cons_erase (h : (g.map (·.id)).Nodup) (hfind : g.find? id = some a) :
    g.Perm (a :: g.erase id) := by
  have hid : a.id = id := by simpa using List.find?_some hfind
  obtain ⟨front, rest, rfl⟩ := List.append_of_mem (List.mem_of_find?_eq_some hfind)
  rw [List.map_append, List.map_cons] at h
  have hnew := (List.nodup_cons.mp (List.perm_middle.nodup_iff.mp h)).1
  have hother : ∀ b ∈ front ++ rest, b.id ≠ a.id := fun b hb heq => by
    refine hnew ?_
    rw [← List.map_append, ← heq]
    exact List.mem_map_of_mem hb
  rw [← hid, erase_middle (fun b hb => hother b (List.mem_append_left _ hb))
    fun b hb => hother b (List.mem_append_right _ hb)]
  exact List.perm_middle

end Agenda

namespace Diary

variable {α β : Type}

/-- The same diary with other payloads. -/
def mapPayloads (f : α → β) (d : Diary α) : Diary β := ⟨d.agenda.mapPayloads f, d.count⟩

/-- A diary does not look at payloads. -/
theorem perform_mapPayloads (f : α → β) (d : Diary α) (deed : Deed α) :
    (d.mapPayloads f).perform (deed.map f)
      = ((d.perform deed).1.map f, (d.perform deed).2.mapPayloads f) := by
  cases deed with
  | insert deadline payload =>
    simp only [perform, Deed.map, mapPayloads, Agenda.insert_mapPayloads]
    rfl
  | reschedule entry deadline =>
    simp only [perform, Deed.map, mapPayloads, Agenda.find?_mapPayloads,
      Agenda.reschedule_mapPayloads, Option.isSome_map]
    rfl
  | remove entry =>
    simp only [perform, Deed.map, mapPayloads, Agenda.find?_mapPayloads,
      Agenda.erase_mapPayloads, Option.map_map]
    refine Prod.ext (congrArg Reply.removed ?_) rfl
    rw [Option.map_map]
    rfl
  | tick now =>
    simp only [perform, Deed.map, mapPayloads, Agenda.due_mapPayloads,
      Agenda.afterTick_mapPayloads, List.map_map]
    refine Prod.ext (congrArg Reply.fired ?_) rfl
    rw [List.map_map]
    rfl

/-- What a diary does to the numbered payloads it does to the payloads. -/
theorem run_numbered (d : Diary (Nat × α)) (deeds : List (Deed α)) (count : Nat) :
    (d.mapPayloads Prod.snd).run deeds
      = ((d.run (Deed.numberedFrom count deeds)).1.map (Reply.map Prod.snd),
        (d.run (Deed.numberedFrom count deeds)).2.mapPayloads Prod.snd) := by
  induction deeds generalizing d count with
  | nil => rfl
  | cons deed deeds ih =>
    have hdeed : (deed.map (count, ·)).map Prod.snd = deed := by cases deed <;> rfl
    have hperform := perform_mapPayloads Prod.snd d (deed.map (count, ·))
    rw [hdeed] at hperform
    simp only [run, Deed.numberedFrom, hperform, ih _ (count + if deed.isInsert then 1 else 0),
      List.map_cons]

/-! ## What a deed hands out -/

/-- A diary in which every entry has the number that its payload carries, and no two have the
same. -/
structure Traced (d : Diary (Nat × α)) : Prop where
  nodup : (d.agenda.map (·.id)).Nodup
  id_lt : ∀ a ∈ d.agenda, a.id < d.count
  number_eq : ∀ a ∈ d.agenda, a.payload.1 = a.id

theorem Traced.payloads_eq {d : Diary (Nat × α)} (h : Traced d) :
    (d.agenda.mapPayloads Prod.snd).map (fun a => (a.id, a.payload))
      = d.agenda.map (·.payload) := by
  rw [Agenda.mapPayloads, List.map_map]
  exact List.map_congr_left fun a ha => Prod.ext (h.number_eq a ha).symm rfl

/-- An entry is there exactly if its payload is not among those handed out. -/
theorem Traced.mem_iff {d : Diary (Nat × α)} (h : Traced d) {gone : List (Nat × α)}
    {count entry : Nat}
    (hperm : ((gone ++ d.agenda.map (·.payload)).map Prod.fst).Perm (List.range count))
    (hentry : entry < count) :
    entry ∈ (d.mapPayloads Prod.snd).agenda.map (·.id) ↔ ∀ p ∈ gone, p.1 ≠ entry := by
  have hids : (d.agenda.map (·.payload)).map Prod.fst
      = (d.mapPayloads Prod.snd).agenda.map (·.id) := by
    simp only [mapPayloads, Agenda.mapPayloads, List.map_map]
    exact List.map_congr_left h.number_eq
  rw [List.map_append, hids] at hperm
  have hnodup := hperm.nodup_iff.mpr List.nodup_range
  have hmem := hperm.mem_iff.mpr (List.mem_range.mpr hentry)
  constructor
  · rintro hthere p hp rfl
    exact List.disjoint_of_nodup_append hnodup (List.mem_map_of_mem hp) hthere
  · intro hgone
    refine (List.mem_append.mp hmem).resolve_left fun hout => ?_
    obtain ⟨p, hp, heq⟩ := List.mem_map.mp hout
    exact hgone p hp heq

/-- What a deed comes to: a reply, and what is left. -/
structure Conserves (d : Diary (Nat × α)) (deed : Deed (Nat × α)) (reply : Reply (Nat × α))
    (d' : Diary (Nat × α)) : Prop where
  traced : Traced d'
  answers : reply.Answers deed
  /-- Nothing is lost, and nothing is handed out that is still there. -/
  perm : (reply.handedOut ++ d'.agenda.map (·.payload)).Perm
    (d.agenda.map (·.payload) ++ deed.inserted)

variable {d : Diary (Nat × α)}

theorem traced_empty : Traced ({} : Diary (Nat × α)) :=
  ⟨List.nodup_nil, List.forall_mem_nil _, List.forall_mem_nil _⟩

/-- An added payload joins those that are there. -/
theorem Traced.insert (h : Traced d) (deadline : Nat) (payload : α) :
    Conserves d (.insert deadline (d.count, payload)) .added
      (d.perform (.insert deadline (d.count, payload))).2 := by
  have hperm := Agenda.insert_perm ⟨d.count, deadline, (d.count, payload)⟩ d.agenda
  refine ⟨⟨?_, fun a ha => ?_, fun a ha => ?_⟩, trivial, ?_⟩
  · refine ((hperm.map (·.id)).nodup_iff).mpr (List.nodup_cons.mpr ⟨fun hmem => ?_, h.nodup⟩)
    obtain ⟨a, ha, heq⟩ := List.mem_map.mp hmem
    exact Nat.ne_of_lt (h.id_lt a ha) heq
  · rcases Agenda.mem_insert.mp ha with rfl | ha
    · exact Nat.lt_succ_self _
    · exact Nat.lt_succ_of_lt (h.id_lt a ha)
  · rcases Agenda.mem_insert.mp ha with rfl | ha
    · rfl
    · exact h.number_eq a ha
  · exact (hperm.map (·.payload)).trans (List.perm_append_singleton _ _).symm

/-- An entry that is moved keeps its payload. -/
theorem Traced.reschedule (h : Traced d) (entry deadline : Nat) :
    Conserves d (.reschedule entry deadline) (d.perform (.reschedule entry deadline)).1
      (d.perform (.reschedule entry deadline)).2 := by
  cases hfind : d.agenda.find? entry with
  | none =>
    have hsame : (d.perform (.reschedule entry deadline)).2 = d := by
      simp only [perform, Agenda.reschedule, hfind]
    rw [hsame]
    exact ⟨h, trivial, List.Perm.of_eq (List.append_nil _).symm⟩
  | some a =>
    have ha := List.mem_of_find?_eq_some hfind
    have hid : a.id = entry := by simpa using List.find?_some hfind
    have hsame : (d.perform (.reschedule entry deadline)).2.agenda
        = (d.agenda.erase entry).insert { a with deadline } := by
      simp only [perform, Agenda.reschedule, hfind]
    have hold := Agenda.perm_cons_erase h.nodup hfind
    have hnew := Agenda.insert_perm { a with deadline } (d.agenda.erase entry)
    rw [← hsame] at hnew
    refine ⟨⟨?_, fun b hb => ?_, fun b hb => ?_⟩, trivial, ?_⟩
    · exact ((hnew.map (·.id)).trans (hold.map (·.id)).symm).nodup_iff.mpr h.nodup
    · rcases List.mem_cons.mp (hnew.mem_iff.mp hb) with rfl | hb
      · exact h.id_lt a ha
      · exact h.id_lt b (Agenda.mem_of_mem_erase hb)
    · rcases List.mem_cons.mp (hnew.mem_iff.mp hb) with rfl | hb
      · exact h.number_eq a ha
      · exact h.number_eq b (Agenda.mem_of_mem_erase hb)
    · refine ((hnew.map (·.payload)).trans (hold.map (·.payload)).symm).trans ?_
      exact List.Perm.of_eq (List.append_nil _).symm

theorem Traced.sublist (h : Traced d) {g : Agenda Nat (Nat × α)} (hsub : g.Sublist d.agenda) :
    Traced { d with agenda := g } :=
  ⟨h.nodup.sublist (hsub.map _), fun a ha => h.id_lt a (hsub.subset ha),
    fun a ha => h.number_eq a (hsub.subset ha)⟩

/-- A removed entry hands out its payload. -/
theorem Traced.remove (h : Traced d) (entry : Nat) :
    Conserves d (.remove entry) (d.perform (.remove entry)).1 (d.perform (.remove entry)).2 := by
  refine ⟨h.sublist List.filter_sublist, ?_, ?_⟩
  · rintro p hp
    obtain ⟨a, hfind, rfl⟩ := Option.map_eq_some_iff.mp hp
    have hid : a.id = entry := by simpa using List.find?_some hfind
    rw [h.number_eq a (List.mem_of_find?_eq_some hfind), hid]
  · refine List.Perm.trans ?_ (List.Perm.of_eq (List.append_nil _).symm)
    simp only [perform, Reply.handedOut]
    cases hfind : d.agenda.find? entry with
    | none =>
      have hnone : ∀ a ∈ d.agenda, a.id ≠ entry := by simpa [Agenda.find?] using hfind
      rw [Agenda.erase_eq_self hnone]
      exact List.Perm.refl _
    | some a => exact ((Agenda.perm_cons_erase h.nodup hfind).map (·.payload)).symm

theorem Traced.tick (h : Traced d) (now : Nat) :
    Conserves d (.tick now) (d.perform (.tick now)).1 (d.perform (.tick now)).2 := by
  refine ⟨h.sublist (List.dropWhile_sublist _), trivial, List.Perm.of_eq ?_⟩
  simp only [perform, Reply.handedOut, Deed.inserted, List.append_nil]
  rw [← List.map_append, Agenda.due_append_afterTick]

theorem Traced.perform (h : Traced d) (deed : Deed α) :
    Conserves d (deed.map (d.count, ·)) (d.perform (deed.map (d.count, ·))).1
        (d.perform (deed.map (d.count, ·))).2 ∧
      (d.perform (deed.map (d.count, ·))).2.count
        = d.count + if deed.isInsert then 1 else 0 := by
  cases deed with
  | insert deadline payload => exact ⟨h.insert deadline payload, rfl⟩
  | reschedule entry deadline => exact ⟨h.reschedule entry deadline, rfl⟩
  | remove entry => exact ⟨h.remove entry, rfl⟩
  | tick now => exact ⟨h.tick now, rfl⟩

theorem Traced.run (h : Traced d) (deeds : List (Deed α)) :
    Traced (d.run (Deed.numberedFrom d.count deeds)).2 ∧
      List.Forall₂ Reply.Answers (Deed.numberedFrom d.count deeds)
        (d.run (Deed.numberedFrom d.count deeds)).1 ∧
      ((d.run (Deed.numberedFrom d.count deeds)).1.flatMap Reply.handedOut
          ++ (d.run (Deed.numberedFrom d.count deeds)).2.agenda.map (·.payload)).Perm
        (d.agenda.map (·.payload)
          ++ (Deed.numberedFrom d.count deeds).flatMap Deed.inserted) := by
  induction deeds generalizing d with
  | nil =>
    exact ⟨h, List.Forall₂.nil, List.Perm.of_eq (List.append_nil _).symm⟩
  | cons deed deeds ih =>
    obtain ⟨hfirst, hcount⟩ := h.perform deed
    obtain ⟨htraced, hanswers, hperm⟩ := ih hfirst.traced
    rw [hcount] at htraced hanswers hperm
    refine ⟨htraced, List.Forall₂.cons hfirst.answers hanswers, ?_⟩
    simp only [Diary.run, Deed.numberedFrom, List.flatMap_cons, List.append_assoc]
    refine (hperm.append_left _).trans ?_
    rw [← List.append_assoc, ← List.append_assoc]
    exact hfirst.perm.append_right _

theorem trace (deeds : List (Deed α)) :
    ∃ traced d, ({} : Diary (Nat × α)).run (Deed.numbered deeds) = (traced, d) ∧
      ({} : Diary α).run deeds = (traced.map (Reply.map Prod.snd), d.mapPayloads Prod.snd) ∧
      Traced d ∧ List.Forall₂ Reply.Answers (Deed.numbered deeds) traced ∧
      (traced.flatMap Reply.handedOut ++ d.agenda.map (·.payload)).Perm
        ((Deed.numbered deeds).flatMap Deed.inserted) := by
  obtain ⟨htraced, hanswers, hperm⟩ := traced_empty.run deeds
  exact ⟨_, _, rfl, run_numbered {} deeds 0, htraced, hanswers, hperm⟩

end Diary

/-! ## Handles -/

namespace DeadlineList

variable {α : Type} {l : DeadlineList α} {id : DeadlineId}

theorem idle_of_stale (h : l.contains id = false) :
    l.deadline? id = none ∧ l.remove id = some (none, l) ∧
      ∀ deadline, l.reschedule id deadline = some (false, l) := by
  refine ⟨?_, ?_, fun deadline => ?_⟩
  · rw [deadline?, h, if_neg Bool.false_ne_true]
  · simp [DeadlineList.remove, h]
  · simp [DeadlineList.reschedule, h]

/-- A live handle is that of an entry, and the operations find it. -/
theorem Represents.found_of_live {g : Agenda DeadlineId α} (hl : Represents l g)
    (h : l.contains id = true) :
    ∃ a ∈ g, a.id = id ∧ l.deadline? id = some a.deadline ∧
      (∃ l', l.remove id = some (some a.payload, l')) ∧
      ∀ deadline, ∃ l', l.reschedule id deadline = some (true, l') := by
  rcases hl.arena.contains_cases id with ⟨hcontains, -⟩ | ⟨front, a, rest, -, hsplit, rfl⟩
  · rw [h] at hcontains
    cases hcontains
  · have ha : a ∈ g := by
      rw [hsplit]
      exact List.mem_append_right _ List.mem_cons_self
    have hfind := hl.find?_of_mem ha
    obtain ⟨l₁, hremove, -⟩ := hl.remove a.id
    rw [hfind] at hremove
    refine ⟨a, ha, rfl, hl.deadline?_of_mem ha, ⟨l₁, hremove⟩, fun deadline => ?_⟩
    obtain ⟨l₂, hreschedule, -⟩ := hl.reschedule a.id deadline
    rw [hfind] at hreschedule
    exact ⟨l₂, hreschedule⟩

theorem lt_length_of_given {i n : Nat} (h : n < l.given i) : i < l.slots.length := by
  by_contra hbeyond
  have hnone : l.slots[i]? = none := List.getElem?_eq_none_iff.mpr (Nat.not_lt.mp hbeyond)
  rw [given, hnone] at h
  exact Nat.not_lt_zero n h

end DeadlineList

namespace Ledger

variable {α : Type} {s s' : Ledger α} {d : Diary α} {g : Agenda DeadlineId α} {reply : Reply α}

/-- A handle refers to an entry as long as the diary has the entry. -/
theorem Keeps.contains_iff (h : Keeps s d g) {entry : Nat} {id : DeadlineId}
    (hid : s.ids[entry]? = some id) :
    s.list.contains id = true ↔ entry ∈ d.agenda.map (·.id) := by
  have hnumber := h.idxOf_eq_iff hid
  rw [← h.agenda_eq, Agenda.rename, List.map_map, List.mem_map]
  rcases h.represents.arena.contains_cases id with ⟨hcontains, hnone⟩ |
    ⟨front, a, rest, hcontains, hsplit, haid⟩
  · refine iff_of_false (by rw [hcontains]; exact Bool.false_ne_true) ?_
    rintro ⟨a, ha, hentry⟩
    exact hnone a ha ((hnumber a ha).mp hentry)
  · have ha : a ∈ g := by
      rw [hsplit]
      exact List.mem_append_right _ List.mem_cons_self
    exact iff_of_true hcontains ⟨a, ha, (hnumber a ha).mpr haid⟩

/-- A ledger has no more slots than it has given out handles. -/
theorem Keeps.slots_perform (h : Keeps s d g) (hslots : s.list.slots.length ≤ s.ids.length)
    {deed : Deed α} (hperform : s.perform deed = some (reply, s')) :
    s'.list.slots.length ≤ s'.ids.length := by
  cases deed with
  | insert deadline payload =>
    obtain ⟨⟨id, list⟩, hinsert, heq⟩ := Option.map_eq_some_iff.mp hperform
    cases heq
    have hlength := h.represents.length_slots_insert hinsert
    have hentries : g.length ≤ s.ids.length := by
      have hsub : g.map (·.id) ⊆ s.ids := fun id hid => by
        obtain ⟨a, ha, rfl⟩ := List.mem_map.mp hid
        exact h.known a ha
      have := (h.represents.nodup_ids.subperm hsub).length_le
      rwa [List.length_map] at this
    show list.slots.length ≤ (s.ids ++ [id]).length
    rw [List.length_append, List.length_singleton]
    omega
  | reschedule entry deadline =>
    simp only [Ledger.perform] at hperform
    cases hid : s.ids[entry]? with
    | none =>
      rw [hid] at hperform
      cases hperform
      exact hslots
    | some id =>
      rw [hid] at hperform
      obtain ⟨⟨found, list⟩, hreschedule, heq⟩ := Option.map_eq_some_iff.mp hperform
      cases heq
      exact (DeadlineList.length_slots_reschedule hreschedule).trans_le hslots
  | remove entry =>
    simp only [Ledger.perform] at hperform
    cases hid : s.ids[entry]? with
    | none =>
      rw [hid] at hperform
      cases hperform
      exact hslots
    | some id =>
      rw [hid] at hperform
      obtain ⟨⟨payload, list⟩, hremove, heq⟩ := Option.map_eq_some_iff.mp hperform
      cases heq
      exact (DeadlineList.length_slots_remove hremove).trans_le hslots
  | tick now =>
    obtain ⟨⟨fired, list⟩, htake, heq⟩ := Option.map_eq_some_iff.mp hperform
    cases heq
    exact (DeadlineList.length_slots_takeDue htake).trans_le hslots

theorem Keeps.slots_run (h : Keeps s d g) (hslots : s.list.slots.length ≤ s.ids.length)
    {deeds : List (Deed α)} {replies : List (Reply α)}
    (hroom : s.ids.length + Deed.insertions deeds < 0x100000000)
    (hrun : s.run deeds = some (replies, s')) : s'.list.slots.length ≤ s'.ids.length := by
  induction deeds generalizing s d g replies with
  | nil =>
    cases hrun
    exact hslots
  | cons deed deeds ih =>
    rw [Deed.insertions_cons] at hroom
    obtain ⟨s₁, g₁, hperform, hkeeps, hlength⟩ := h.perform (by omega) deed
    obtain ⟨s₂, g₂, hrest, -⟩ := hkeeps.run deeds (by omega)
    simp only [Ledger.run, hperform, hrest, Option.bind_eq_bind, Option.bind_some,
      Option.pure_def, Option.some.injEq, Prod.mk.injEq] at hrun
    obtain ⟨-, rfl⟩ := hrun
    exact ih hkeeps (h.slots_perform hslots hperform) (by omega) hrest

/-- **Each payload leaves once.**  Whatever is done to a list of deadlines, as long as fewer
entries are added than there are generations: no handle is given out twice, and the number of
its slot fits into as many bits as its generation.  With each payload next to the number of its
entry, what was handed out and what is still held are together what was added, each payload
once; and a removal hands out the payload of its own entry.  A handle refers to its entry, and the
operations find it, exactly until the payload of that entry is handed out; after that it does
nothing. -/
theorem payloads_leave_once (deeds : List (Deed α)) (h : Deed.insertions deeds < 0x100000000) :
    ∃ replies s traced t g,
      ({} : Ledger α).run deeds = some (replies, s) ∧
      ({} : Ledger (Nat × α)).run (Deed.numbered deeds) = some (traced, t) ∧
      replies = traced.map (Reply.map Prod.snd) ∧
      s.list.entries = some g ∧
      s.ids.length = Deed.insertions deeds ∧ s.ids.Nodup ∧
      (∀ id ∈ s.ids, id.index < 0x100000000) ∧
      ((Deed.numbered deeds).flatMap Deed.inserted).map Prod.fst
        = List.range (Deed.insertions deeds) ∧
      (traced.flatMap Reply.handedOut ++ g.map fun a => (s.ids.idxOf a.id, a.payload)).Perm
        ((Deed.numbered deeds).flatMap Deed.inserted) ∧
      List.Forall₂ Reply.Answers (Deed.numbered deeds) traced ∧
      ∀ entry id, s.ids[entry]? = some id →
        (s.list.contains id = true ↔ ∀ p ∈ traced.flatMap Reply.handedOut, p.1 ≠ entry) ∧
        (s.list.contains id = true → ∃ a ∈ g, a.id = id ∧ s.list.deadline? id = some a.deadline ∧
          (∃ l, s.list.remove id = some (some a.payload, l)) ∧
          ∀ deadline, ∃ l, s.list.reschedule id deadline = some (true, l)) ∧
        (s.list.contains id = false → s.list.deadline? id = none ∧
          s.list.remove id = some (none, s.list) ∧
          ∀ deadline, s.list.reschedule id deadline = some (false, s.list)) := by
  obtain ⟨traced, d, hdiary', hdiary, htraced, hanswers, hperm⟩ := Diary.trace deeds
  have hroom : ({} : Ledger α).ids.length + Deed.insertions deeds < 0x100000000 := by
    rw [List.length_nil, Nat.zero_add]
    exact h
  have hroom' : ({} : Ledger (Nat × α)).ids.length + Deed.insertions (Deed.numbered deeds)
      < 0x100000000 := by
    rw [Deed.numbered, Deed.insertions_numberedFrom]
    exact hroom
  obtain ⟨s, g, hrun, hkeeps⟩ := keeps_empty.run deeds hroom
  obtain ⟨t, g', hrun', -⟩ := keeps_empty.run (Deed.numbered deeds) hroom'
  have hslots := keeps_empty.slots_run (Nat.le_refl _) hroom hrun
  have hlength : s.ids.length = Deed.insertions deeds := by
    rw [← hkeeps.count_eq, (Diary.dated_run deeds).count_eq]
  rw [hdiary] at hrun hkeeps
  rw [hdiary'] at hrun'
  have hagenda : g.rename s.ids.idxOf = d.agenda.mapPayloads Prod.snd := hkeeps.agenda_eq
  have hheld : (g.map fun a => (s.ids.idxOf a.id, a.payload)) = d.agenda.map (·.payload) := by
    rw [← htraced.payloads_eq, ← hagenda, Agenda.rename, List.map_map]
    rfl
  have hnumbers : ((Deed.numbered deeds).flatMap Deed.inserted).map Prod.fst
      = List.range (Deed.insertions deeds) := by
    rw [Deed.numbered, Deed.numbers_inserted, List.range_eq_range']
  refine ⟨_, s, traced, t, g, hrun, hrun', rfl, hkeeps.represents.entries, hlength, hkeeps.nodup,
    fun id hid => ?_, hnumbers, hheld ▸ hperm, hanswers,
    fun entry id hid => ⟨?_, hkeeps.represents.found_of_live, DeadlineList.idle_of_stale⟩⟩
  · have hgiven := Nat.zero_lt_of_lt (hkeeps.generation_lt id hid)
    have := DeadlineList.lt_length_of_given hgiven
    omega
  · have hentry : entry < Deed.insertions deeds :=
      hlength ▸ (List.getElem?_eq_some_iff.mp hid).1
    rw [hkeeps.contains_iff hid]
    exact htraced.mem_iff (hnumbers ▸ hperm.map Prod.fst) hentry

/-- The slot of the first entry is used again for the third.  The handle of the first one does
nothing, and each payload leaves once. -/
theorem payloads_leave_once_of_slot_reused :
    let deeds : List (Deed Char) := [.insert 5 'a', .insert 6 'b', .remove 0, .insert 7 'b', .tick 6]
    Deed.insertions deeds < 0x100000000 ∧
      ∃ s, ({} : Ledger Char).run deeds
          = some ([.added, .added, .removed (some 'a'), .added, .fired ['b']], s) ∧
        s.ids = [⟨0, 0⟩, ⟨1, 0⟩, ⟨0, 1⟩] ∧ s.ids.Nodup ∧ s.list.contains ⟨0, 1⟩ = true ∧
        s.list.remove ⟨0, 0⟩ = some (none, s.list) := by
  intro deeds
  have hcount : Deed.insertions deeds < 0x100000000 := by decide
  obtain ⟨replies, s, traced, t, g, hrun, -, -, -, -, hnodup, -, -, -, -, hhandles⟩ :=
    payloads_leave_once deeds hcount
  have hends : ({} : Ledger Char).run deeds = some (
      [.added, .added, .removed (some 'a'), .added, .fired ['b']],
      ⟨⟨[⟨1, some ⟨7, 'b', none, none⟩⟩, ⟨1, none⟩], [1], some 0, some 0, 1⟩,
        [⟨0, 0⟩, ⟨1, 0⟩, ⟨0, 1⟩]⟩) := by decide +kernel
  rw [hends] at hrun
  cases hrun
  exact ⟨hcount, _, hends, rfl, hnodup, by decide, ((hhandles 0 ⟨0, 0⟩ rfl).2.2 (by decide)).2.1⟩

end Ledger
end SiteServer
