import Mathlib.Logic.Relation
import SiteServer.Files.Tree

/-!
# Looking up names in a tree that grows

The look-up of a path makes one move after another (`Move`), and what it finds is where the
moves lead.  A move goes through directories and links only, so it can still be made when
files have got other contents and directories more entries (`Tree.Grows`).

* `resolve_of_grows`: a path goes on naming the object it names.
* `resolve_of_openAppend`: a path that a file was opened under names that file.
* `openAppend_of_resolve`: a path that names a file is opened as that file, and the tree
  stays as it is.
-/

namespace SiteServer
namespace Files

/-- The same object later: a file may have other contents, a directory more entries. -/
inductive Object.Grows : Object → Object → Prop
  | file (mode : Nat) (data later : Bytes) : Grows (.file mode data) (.file mode later)
  | directory (mode parent : Nat) {entries later : List (Bytes × Nat)}
      (hentries : ∀ name i, entries.lookup name = some i → later.lookup name = some i) :
      Grows (.directory mode parent entries) (.directory mode parent later)
  | link (target : Bytes) : Grows (.link target) (.link target)
  | socket (mode : Nat) : Grows (.socket mode) (.socket mode)

theorem Object.Grows.refl (o : Object) : o.Grows o := by
  cases o with
  | file mode data => exact .file mode data data
  | directory mode parent entries => exact .directory mode parent fun _ _ h => h
  | link target => exact .link target
  | socket mode => exact .socket mode

namespace Tree

variable {t t' : Tree} {o : Object} {links here dir i : Nat} {parts : List Bytes}
  {path name : Bytes}

/-- The same tree later: every object is still there, and there may be more. -/
def Grows (t t' : Tree) : Prop :=
  ∀ (i : Nat) (o : Object), t.objects[i]? = some o → ∃ o', t'.objects[i]? = some o' ∧ o.Grows o'

/-! ## Moves -/

/-- A look-up on its way: how many links it may still follow, the object it has come to,
and the components before it. -/
structure Place where
  links : Nat
  here : Nat
  ahead : List Bytes

/-- A component that is looked up among the entries of a directory. -/
structure Plain (name : Bytes) : Prop where
  notHere : isHere name = false
  notParent : isParent name = false
  short : name.length ≤ maxName

/-- One move of a look-up. -/
inductive Move (t : Tree) : Place → Place → Prop
  | stay {links here mode parent : Nat} {entries : List (Bytes × Nat)} {name : Bytes}
      {rest : List Bytes} (hdir : t.objects[here]? = some (.directory mode parent entries))
      (hname : isHere name = true) : Move t ⟨links, here, name :: rest⟩ ⟨links, here, rest⟩
  | leave {links here mode parent : Nat} {entries : List (Bytes × Nat)} {name : Bytes}
      {rest : List Bytes} (hdir : t.objects[here]? = some (.directory mode parent entries))
      (hhere : isHere name = false) (hname : isParent name = true) :
      Move t ⟨links, here, name :: rest⟩ ⟨links, parent, rest⟩
  | follow {links here mode parent i : Nat} {entries : List (Bytes × Nat)} {name target : Bytes}
      {rest : List Bytes} (hdir : t.objects[here]? = some (.directory mode parent entries))
      (hname : Plain name) (hentry : entries.lookup name = some i)
      (hlink : t.objects[i]? = some (.link target)) :
      Move t ⟨links + 1, here, name :: rest⟩
        ⟨links, if target.head? = some 0x2F then top else here, components target ++ rest⟩
  | enter {links here mode parent i : Nat} {entries : List (Bytes × Nat)} {name : Bytes}
      {rest : List Bytes} {o : Object}
      (hdir : t.objects[here]? = some (.directory mode parent entries))
      (hname : Plain name) (hentry : entries.lookup name = some i)
      (hobject : t.objects[i]? = some o) (hlink : ∀ target, o ≠ .link target) :
      Move t ⟨links, here, name :: rest⟩ ⟨links, i, rest⟩

/-- Some moves, one after another. -/
abbrev Leads (t : Tree) : Place → Place → Prop := Relation.ReflTransGen t.Move

/-- The outcome of a look-up that has come so far. -/
def walkFrom (t : Tree) (p : Place) : Except Fault Nat := t.walk p.links p.here p.ahead

/-- A move does not change the outcome. -/
theorem Move.walkFrom {p q : Place} (h : t.Move p q) : t.walkFrom p = t.walkFrom q := by
  unfold Tree.walkFrom
  cases h with
  | stay hdir hname =>
    rw [walk]
    simp only [hdir, if_pos hname]
  | leave hdir hhere hname =>
    rw [walk]
    simp only [hdir, hhere, if_pos hname, Bool.false_eq_true, if_false]
  | follow hdir hname hentry hlink =>
    rw [walk]
    simp only [hdir, hname.notHere, hname.notParent, Nat.not_lt.mpr hname.short, hentry, hlink,
      Bool.false_eq_true, if_false]
  | @enter links here mode parent i entries name rest o hdir hname hentry hobject hlink =>
    rw [walk]
    simp only [hdir, hname.notHere, hname.notParent, Nat.not_lt.mpr hname.short, hentry, hobject,
      Bool.false_eq_true, if_false]
    cases o with
    | link target => exact absurd rfl (hlink target)
    | _ => rfl

theorem Leads.walkFrom {p q : Place} (h : t.Leads p q) : t.walkFrom p = t.walkFrom q := by
  induction h with
  | refl => rfl
  | tail _ hmove ih => exact ih.trans hmove.walkFrom

/-! ## Where moves lead -/

/-- A look-up that finds an object has come by objects only. -/
theorem exists_of_walk (h : t.walk links here parts = .ok i) (hi : t.objects[i]? = some o) :
    ∃ o', t.objects[here]? = some o' := by
  cases parts with
  | nil =>
    rw [walk] at h
    obtain rfl := Except.ok.inj h
    exact ⟨o, hi⟩
  | cons name rest =>
    cases hhere : t.objects[here]? with
    | some o' => exact ⟨o', rfl⟩
    | none =>
      rw [walk, hhere] at h
      cases h

theorem exists_of_locate {spot : Spot} (h : t.locate links here parts = .ok spot)
    (hparts : parts ≠ []) : ∃ o, t.objects[here]? = some o := by
  cases parts with
  | nil => exact absurd rfl hparts
  | cons name rest =>
    cases hhere : t.objects[here]? with
    | some o => exact ⟨o, rfl⟩
    | none =>
      rw [locate, hhere] at h
      cases h

/-- What a look-up finds is where its moves lead. -/
theorem leads_of_walk (h : t.walk links here parts = .ok i) (hi : t.objects[i]? = some o) :
    ∃ left, t.Leads ⟨links, here, parts⟩ ⟨left, i, []⟩ := by
  fun_induction Tree.walk t links here parts
  case case1 links here =>
    obtain rfl := Except.ok.inj h
    exact ⟨links, .refl⟩
  case case2 hdir hname ih =>
    obtain ⟨left, hleads⟩ := ih h
    exact ⟨left, .head (.stay hdir hname) hleads⟩
  case case3 hdir hhere hname ih =>
    obtain ⟨left, hleads⟩ := ih h
    exact ⟨left, .head (.leave hdir (Bool.eq_false_iff.mpr hhere) hname) hleads⟩
  case case7 hdir hhere hparent hshort j hentry target hlink links ih =>
    obtain ⟨left, hleads⟩ := ih h
    have hname : Plain _ :=
      ⟨Bool.eq_false_iff.mpr hhere, Bool.eq_false_iff.mpr hparent, Nat.not_lt.mp hshort⟩
    exact ⟨left, .head (.follow hdir hname hentry hlink) hleads⟩
  case case8 hdir hhere hparent hshort j hentry hlink ih =>
    obtain ⟨left, hleads⟩ := ih h
    obtain ⟨o', hj⟩ := exists_of_walk h hi
    have hname : Plain _ :=
      ⟨Bool.eq_false_iff.mpr hhere, Bool.eq_false_iff.mpr hparent, Nat.not_lt.mp hshort⟩
    exact ⟨left, .head (.enter hdir hname hentry hj fun target ho => hlink target (ho ▸ hj)) hleads⟩
  -- in the other cases nothing is found
  all_goals cases h

/-- That a look-up which is at `p` comes to a place for a file: to an object, if there is one
of this number, or before a name that is free in a directory. -/
def ComesTo (t : Tree) (p : Place) : Spot → Prop
  | .existing i => ∀ o, t.objects[i]? = some o → ∃ left, t.Leads p ⟨left, i, []⟩
  | .vacant dir name => Plain name ∧ ∃ left mode parent entries,
      t.Leads p ⟨left, dir, [name]⟩ ∧
      t.objects[dir]? = some (.directory mode parent entries) ∧ entries.lookup name = none

theorem ComesTo.head {p q : Place} {spot : Spot} (h : t.ComesTo q spot) (hmove : t.Move p q) :
    t.ComesTo p spot := by
  cases spot with
  | existing i =>
    intro o hi
    obtain ⟨left, hleads⟩ := h o hi
    exact ⟨left, .head hmove hleads⟩
  | vacant dir name =>
    obtain ⟨hname, left, mode, parent, entries, hleads, hdir⟩ := h
    exact ⟨hname, left, mode, parent, entries, .head hmove hleads, hdir⟩

/-- The place that is found for a file is where the moves lead. -/
theorem comesTo_of_locate {spot : Spot} (h : t.locate links here parts = .ok spot) :
    t.ComesTo ⟨links, here, parts⟩ spot := by
  fun_induction Tree.locate t links here parts
  case case2 hdir hname ih => exact (ih h).head (.stay hdir hname)
  case case3 hdir hhere hname ih =>
    exact (ih h).head (.leave hdir (Bool.eq_false_iff.mpr hhere) hname)
  case case5 links here name mode parent entries hdir hhere hparent hshort hentry =>
    obtain rfl := Except.ok.inj h
    have hname : Plain name :=
      ⟨Bool.eq_false_iff.mpr hhere, Bool.eq_false_iff.mpr hparent, Nat.not_lt.mp hshort⟩
    exact ⟨hname, links, mode, parent, entries, .refl, hdir, hentry⟩
  case case8 hdir hhere hparent hshort j hentry target hlink links ih =>
    have hname : Plain _ :=
      ⟨Bool.eq_false_iff.mpr hhere, Bool.eq_false_iff.mpr hparent, Nat.not_lt.mp hshort⟩
    exact (ih h).head (.follow hdir hname hentry hlink)
  case case9 links here name mode parent entries hdir hhere hparent hshort j hentry hlink =>
    obtain rfl := Except.ok.inj h
    have hname : Plain name :=
      ⟨Bool.eq_false_iff.mpr hhere, Bool.eq_false_iff.mpr hparent, Nat.not_lt.mp hshort⟩
    intro o hj
    exact ⟨links, .single (.enter hdir hname hentry hj fun target ho => hlink target (ho ▸ hj))⟩
  case case10 hdir hhere hparent hshort j hentry hrest hlink ih =>
    have hname : Plain _ :=
      ⟨Bool.eq_false_iff.mpr hhere, Bool.eq_false_iff.mpr hparent, Nat.not_lt.mp hshort⟩
    obtain ⟨o, hj⟩ := exists_of_locate h hrest
    exact (ih h).head (.enter hdir hname hentry hj fun target ho => hlink target (ho ▸ hj))
  -- in the other cases there is no place
  all_goals cases h

/-! ## Growing -/

theorem Move.of_grows {p q : Place} (h : t.Move p q) (hgrows : t.Grows t') : t'.Move p q := by
  cases h with
  | stay hdir hname =>
    obtain ⟨_, hdir', hgrown⟩ := hgrows _ _ hdir
    cases hgrown with
    | directory _ _ hentries => exact .stay hdir' hname
  | leave hdir hhere hname =>
    obtain ⟨_, hdir', hgrown⟩ := hgrows _ _ hdir
    cases hgrown with
    | directory _ _ hentries => exact .leave hdir' hhere hname
  | follow hdir hname hentry hlink =>
    obtain ⟨_, hdir', hgrown⟩ := hgrows _ _ hdir
    obtain ⟨_, hlink', hsame⟩ := hgrows _ _ hlink
    cases hgrown with
    | directory _ _ hentries =>
      cases hsame with
      | link target => exact .follow hdir' hname (hentries _ _ hentry) hlink'
  | enter hdir hname hentry hobject hlink =>
    obtain ⟨_, hdir', hgrown⟩ := hgrows _ _ hdir
    obtain ⟨later, hobject', hsame⟩ := hgrows _ _ hobject
    cases hgrown with
    | directory _ _ hentries =>
      refine .enter hdir' hname (hentries _ _ hentry) hobject' fun target heq => ?_
      subst heq
      cases hsame with
      | link target => exact hlink target rfl

theorem Leads.of_grows {p q : Place} (h : t.Leads p q) (hgrows : t.Grows t') : t'.Leads p q := by
  induction h with
  | refl => exact .refl
  | tail _ hmove ih => exact ih.tail (hmove.of_grows hgrows)

/-- A path goes on naming the object it names. -/
theorem resolve_of_grows (h : t.resolve path = .ok i) (hi : t.objects[i]? = some o)
    (hgrows : t.Grows t') : t'.resolve path = .ok i := by
  unfold resolve at h ⊢
  cases hcheck : checkPath path with
  | error f => simp [hcheck, bind, Except.bind] at h
  | ok =>
    simp only [hcheck, bind, Except.bind] at h ⊢
    obtain ⟨left, hleads⟩ := leads_of_walk h hi
    have hwalk := (hleads.of_grows hgrows).walkFrom
    simpa [walkFrom, walk] using hwalk

/-- Appending to a file changes no more than its contents. -/
theorem grows_append (t : Tree) (i : Nat) (more : Bytes) : t.Grows (t.append i more) := by
  intro j o hj
  unfold append
  split
  case h_2 => exact ⟨o, hj, .refl o⟩
  case h_1 mode data hi =>
    by_cases heq : i = j
    · subst heq
      obtain rfl := Option.some.inj (hi.symm.trans hj)
      obtain ⟨hlt, -⟩ := List.getElem?_eq_some_iff.mp hi
      exact ⟨_, List.getElem?_set_self hlt, .file mode data _⟩
    · exact ⟨o, (List.getElem?_set_ne heq).trans hj, .refl o⟩

theorem getElem?_append {mode : Nat} {data : Bytes}
    (hfile : t.objects[i]? = some (.file mode data)) (more : Bytes) :
    (t.append i more).objects[i]? = some (.file mode (data ++ more)) := by
  obtain ⟨hlt, -⟩ := List.getElem?_eq_some_iff.mp hfile
  simp only [append, hfile, set]
  exact List.getElem?_set_self hlt

/-! ## Opening a file for appending -/

section Add

variable {mode parent : Nat} {entries : List (Bytes × Nat)}

/-- Adding an object under a free name puts one entry at the end of the directory. -/
theorem objects_add (hdir : t.objects[dir]? = some (.directory mode parent entries))
    (hfree : entries.lookup name = none) (o : Object) :
    (t.add dir name o).1.objects =
      (t.objects ++ [o]).set dir
        (.directory mode parent (entries ++ [(name, t.objects.length)])) := by
  have hlt := (List.getElem?_eq_some_iff.mp hdir).1
  have hfilter : entries.filter (fun e => e.1 != name) = entries := by
    refine List.filter_eq_self.mpr fun e he => bne_iff_ne.mpr fun heq => ?_
    have hne := List.lookup_eq_none_iff.mp hfree e he
    simp [heq] at hne
  have hdir' : (t.objects ++ [o])[dir]? = some (.directory mode parent entries) := by
    rw [List.getElem?_append_left hlt]
    exact hdir
  simp only [add, bindName, hdir', hfilter, set]

theorem grows_add (hdir : t.objects[dir]? = some (.directory mode parent entries))
    (hfree : entries.lookup name = none) (o : Object) : t.Grows (t.add dir name o).1 := by
  intro j p hj
  have hlt := (List.getElem?_eq_some_iff.mp hj).1
  rw [objects_add hdir hfree]
  by_cases heq : dir = j
  · subst heq
    obtain rfl := Option.some.inj (hdir.symm.trans hj)
    refine ⟨_, List.getElem?_set_self (by simp; omega), .directory mode parent ?_⟩
    intro other k hk
    rw [List.lookup_append, hk]
    rfl
  · rw [List.getElem?_set_ne heq, List.getElem?_append_left hlt]
    exact ⟨p, hj, .refl p⟩

theorem getElem?_add (hdir : t.objects[dir]? = some (.directory mode parent entries))
    (hfree : entries.lookup name = none) (o : Object) :
    (t.add dir name o).1.objects[t.objects.length]? = some o := by
  have hlt := (List.getElem?_eq_some_iff.mp hdir).1
  rw [objects_add hdir hfree, List.getElem?_set_ne (Nat.ne_of_lt hlt), List.getElem?_concat_length]

/-- An object that was added under a free name is found there. -/
theorem enter_add (hdir : t.objects[dir]? = some (.directory mode parent entries))
    (hfree : entries.lookup name = none) (hname : Plain name) (hlink : ∀ target, o ≠ .link target)
    (links : Nat) :
    (t.add dir name o).1.Move ⟨links, dir, [name]⟩ ⟨links, t.objects.length, []⟩ := by
  have hlt := (List.getElem?_eq_some_iff.mp hdir).1
  have hdir' : (t.add dir name o).1.objects[dir]?
      = some (.directory mode parent (entries ++ [(name, t.objects.length)])) := by
    rw [objects_add hdir hfree]
    exact List.getElem?_set_self (by rw [List.length_append]; omega)
  have hentry : (entries ++ [(name, t.objects.length)]).lookup name = some t.objects.length := by
    rw [List.lookup_append, hfree, List.lookup_cons_self]
    rfl
  exact .enter hdir' hname hentry (getElem?_add hdir hfree o) hlink

end Add

/-- Opening a file finds it, or makes an empty one. -/
theorem openAppend_cases (h : t.openAppend path = .ok (i, t')) :
    checkPath path = .ok () ∧
      ((t.locate maxLinks (start path) (components path) = .ok (.existing i) ∧
          (∃ mode data, t.objects[i]? = some (.file mode data)) ∧ t' = t) ∨
        ∃ dir name,
          t.locate maxLinks (start path) (components path) = .ok (.vacant dir name) ∧
          i = t.objects.length ∧ t' = (t.add dir name (.file 0o644 [])).1) := by
  unfold openAppend at h
  cases hcheck : checkPath path with
  | error f => simp [hcheck, bind, Except.bind] at h
  | ok =>
    refine ⟨rfl, ?_⟩
    simp only [hcheck, bind, Except.bind] at h
    split at h
    case isTrue => cases h
    case isFalse =>
      cases hspot : t.locate maxLinks (start path) (components path) with
      | error f => simp [hspot] at h
      | ok spot =>
        simp only [hspot] at h
        cases spot with
        | vacant dir name =>
          obtain ⟨rfl, rfl⟩ := Prod.mk.inj (Except.ok.inj h)
          exact Or.inr ⟨dir, name, rfl, rfl, rfl⟩
        | existing j =>
          dsimp only at h
          split at h
          case h_1 mode data hfile =>
            obtain ⟨rfl, rfl⟩ := Prod.mk.inj (Except.ok.inj h)
            exact Or.inl ⟨rfl, ⟨mode, data, hfile⟩, rfl⟩
          all_goals cases h

theorem resolve_of_leads {left : Nat} (hcheck : checkPath path = .ok ())
    (h : t.Leads ⟨maxLinks, start path, components path⟩ ⟨left, i, []⟩) :
    t.resolve path = .ok i := by
  unfold resolve
  simp only [hcheck, bind, Except.bind]
  simpa [walkFrom, walk] using h.walkFrom

/-- A path that a file was opened under names that file.  It is as it was, or new and
empty. -/
theorem resolve_of_openAppend (h : t.openAppend path = .ok (i, t')) :
    t'.resolve path = .ok i ∧ ∃ mode data, t'.objects[i]? = some (.file mode data) ∧
      (data = [] ∨ t.read path = .ok data) := by
  obtain ⟨hcheck, ⟨hspot, ⟨mode, data, hfile⟩, rfl⟩ | ⟨dir, name, hspot, rfl, rfl⟩⟩ :=
    openAppend_cases h
  · obtain ⟨left, hleads⟩ := comesTo_of_locate hspot _ hfile
    have hresolve := resolve_of_leads hcheck hleads
    refine ⟨hresolve, mode, data, hfile, Or.inr ?_⟩
    simp [read, hresolve, contentsAt, hfile, bind, Except.bind]
  · obtain ⟨hname, left, mode, parent, entries, hleads, hdir, hfree⟩ := comesTo_of_locate hspot
    have hgrown := hleads.of_grows (grows_add hdir hfree (.file 0o644 []))
    have hlink : ∀ target, Object.file 0o644 [] ≠ .link target := by
      intro target heq
      cases heq
    have henter := enter_add hdir hfree hname hlink left
    exact ⟨resolve_of_leads hcheck (hgrown.tail henter), 0o644, [], getElem?_add hdir hfree _,
      Or.inl rfl⟩

/-- A path that names a file is opened as that file, and nothing changes. -/
theorem openAppend_of_resolve {mode j : Nat} {data : Bytes} (hresolve : t.resolve path = .ok i)
    (hfile : t.objects[i]? = some (.file mode data)) (h : t.openAppend path = .ok (j, t')) :
    j = i ∧ t' = t := by
  obtain ⟨hcheck, ⟨hspot, ⟨mode', data', hfile'⟩, rfl⟩ | ⟨dir, name, hspot, rfl, rfl⟩⟩ :=
    openAppend_cases h
  · obtain ⟨left, hleads⟩ := comesTo_of_locate hspot _ hfile'
    exact ⟨Except.ok.inj ((resolve_of_leads hcheck hleads).symm.trans hresolve), rfl⟩
  · -- the look-up would have stopped before the free name
    obtain ⟨hname, left, mode, parent, entries, hleads, hdir, hfree⟩ := comesTo_of_locate hspot
    have hwalk := hleads.walkFrom
    unfold resolve at hresolve
    simp only [hcheck, bind, Except.bind] at hresolve
    unfold walkFrom at hwalk
    rw [hresolve, walk] at hwalk
    simp [hdir, hname.notHere, hname.notParent, Nat.not_lt.mpr hname.short, hfree] at hwalk

/-! ## A tree with one file -/

theorem objects_put_empty {name : Bytes} (hname : Plain name) (hparts : components name = [name])
    (hstart : start name = base) (mode : Nat) (data : Bytes) :
    (empty.put name (.file mode data)).objects
      = [.directory 0o755 0 [], .directory 0o755 0 [(name, 2)], .file mode data] := by
  simp [put, hparts, hname.notHere, hstart, place, add, bindName, set, settle, empty, base]

/-- A file that was put under a name into an empty tree is found under that name, and opened. -/
theorem openAppend_put_empty {name : Bytes} (hname : Plain name) (hparts : components name = [name])
    (hstart : start name = base) (hcheck : checkPath name = .ok ()) (mode : Nat) (data : Bytes) :
    let t := empty.put name (.file mode data)
    t.objects[2]? = some (.file mode data) ∧ t.resolve name = .ok 2 ∧
      t.openAppend name = .ok (2, t) := by
  intro t
  have hobjects := objects_put_empty hname hparts hstart mode data
  have hdir : t.objects[base]? = some (.directory 0o755 0 [(name, 2)]) := by
    rw [hobjects]
    rfl
  have hfile : t.objects[2]? = some (.file mode data) := by
    rw [hobjects]
    rfl
  have hentry : [(name, 2)].lookup name = some 2 := List.lookup_cons_self
  have hempty : name ≠ [] := by
    rintro rfl
    cases hname.notHere
  have hleads : t.Leads ⟨maxLinks, start name, components name⟩ ⟨maxLinks, 2, []⟩ := by
    rw [hstart, hparts]
    exact .single (.enter hdir hname hentry hfile fun target => by simp)
  have hlocate : t.locate maxLinks (start name) [name] = .ok (.existing 2) := by
    rw [hstart, locate]
    simp [hdir, hname.notHere, hname.notParent, Nat.not_lt.mpr hname.short, hfile]
  refine ⟨hfile, resolve_of_leads hcheck hleads, ?_⟩
  simp [openAppend, hcheck, hparts, hempty, hlocate, hfile, bind, Except.bind]

end Tree
end Files
end SiteServer
