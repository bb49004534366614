import SiteServer.Proofs.Files.Lookup
import SiteServer.Proofs.Store.Records
import SiteServer.Store.Shared

/-!
# The known users are those in the storage

However a store that was opened is used, loading the users again through any of its handles
gives the users that are known (`Shared.users_follow_rows`).  All handles refer to one place
(`Holds`), and a user is known as soon as the row is there and not before (`Agrees`).

A use either changes no row or puts one at the end (`Shared.agrees_act`), and what a run has
added is what its log says (`Shared.agrees_after`).  When a user is added at all is said by
`Shared.act_register_added_iff`.
-/

namespace SiteServer
namespace Store

variable {handles : List Backend} {b : Backend} {s s' : Storage} {rows : List Row}
  {user password name : String}

/-- How a store may have been opened: in memory, whatever rows the table has, or on one
credential file that was missing or is text whose every line is ended. -/
inductive Opened : List Backend → Storage → Prop
  | memory (count : Nat) (s : Storage) : Opened (List.replicate count .memory) s
  | file {before s : Storage} {path : Bytes} {count : Nat} {handles : List Backend}
      (hbefore : ∀ contents, before.files.read path = .ok contents →
        Record.Whole contents ∧ (Utf8.decode contents).isSome)
      (hopen : Backend.openFiles before path count = .ok (handles, s)) : Opened handles s

/-- Whether the storage behind a handle takes rows at present. -/
def Backend.Takes (b : Backend) (s : Storage) : Prop :=
  match b with
  | memory => s.table.failing = false
  | file _ _ => s.unwritable = none

/-! ## One place behind all handles -/

/-- That the handles all refer to one place, where these rows are. -/
inductive Holds (handles : List Backend) (s : Storage) : List Row → Prop
  | memory (hhandles : ∀ b ∈ handles, b = .memory) : Holds handles s s.table.rows
  | file {path contents : Bytes} {i mode : Nat} {rows : List Row}
      (hhandles : ∀ b ∈ handles, b = .file path i) (hresolve : s.files.resolve path = .ok i)
      (hfile : s.files.objects[i]? = some (.file mode contents)) (hwhole : Record.Whole contents)
      (hread : Record.readAll contents = .ok rows) : Holds handles s rows

/-- Every handle reads the rows that are held. -/
theorem Holds.rows_eq (h : Holds handles s rows) (hb : b ∈ handles) : b.rows s = .ok rows := by
  cases h with
  | memory hhandles =>
    rw [hhandles b hb]
    rfl
  | file hhandles hresolve hfile hwhole hread =>
    rw [hhandles b hb]
    simp [Backend.rows, Files.Tree.read, Files.Tree.contentsAt, hresolve, hfile, bind, Except.bind,
      hread]

theorem Holds.of_same (h : Holds handles s rows) (hrows : s'.table.rows = s.table.rows)
    (hfiles : s'.files = s.files) : Holds handles s' rows := by
  cases h with
  | memory hhandles =>
    rw [← hrows]
    exact .memory hhandles
  | file hhandles hresolve hfile hwhole hread =>
    rw [← hfiles] at hresolve hfile
    exact .file hhandles hresolve hfile hwhole hread

theorem Holds.ofBackend_eq (h : Holds handles s rows) (hb : b ∈ handles) :
    Credentials.ofBackend b s = .ok (Credentials.ofRows rows) := by
  rw [Credentials.ofBackend, h.rows_eq hb]
  rfl

/-- What the storage must have been like for a row to be added, and what it is then. -/
theorem addRow_cases (h : b.addRow s user password = .ok s') :
    Record.check user = .ok () ∧ Record.check password = .ok () ∧
      ((b = .memory ∧
          s' = { s with table := { s.table with rows := s.table.rows ++ [(user, password)] } }) ∨
        ∃ path i, b = .file path i ∧
          s' = { s with files := s.files.append i (Record.encode user password) }) := by
  unfold Backend.addRow at h
  split at h
  case h_1 => cases h
  case h_2 huser =>
    split at h
    case h_1 => cases h
    case h_2 hpassword =>
      refine ⟨huser, hpassword, ?_⟩
      cases b with
      | memory =>
        dsimp only at h
        split at h
        · cases h
        · exact Or.inl ⟨rfl, (Except.ok.inj h).symm⟩
      | file path i =>
        dsimp only at h
        split at h
        · cases h
        · exact Or.inr ⟨path, i, rfl, (Except.ok.inj h).symm⟩

/-- A row is added if both fields can be written and the storage takes rows. -/
theorem exists_addRow_iff :
    (∃ later, b.addRow s user password = .ok later) ↔
      Record.isField user = true ∧ Record.isField password = true ∧ b.Takes s := by
  cases huser : Record.isField user
  · simp [Backend.addRow, Record.check, huser]
  · cases hpassword : Record.isField password
    · simp [Backend.addRow, Record.check, huser, hpassword]
    · cases b with
      | memory =>
        cases hfailing : s.table.failing <;>
          simp [Backend.addRow, Record.check, huser, hpassword, Backend.Takes, hfailing]
      | file path i =>
        cases hfault : s.unwritable <;>
          simp [Backend.addRow, Record.check, huser, hpassword, Backend.Takes, hfault]

/-- A row that was added through one handle is read through all, behind the others. -/
theorem Holds.addRow (h : Holds handles s rows) (hb : b ∈ handles)
    (hadd : b.addRow s user password = .ok s') : Holds handles s' (rows ++ [(user, password)]) := by
  obtain ⟨huser, hpassword, hcases⟩ := addRow_cases hadd
  cases h with
  | memory hhandles =>
    obtain rfl := hhandles b hb
    rcases hcases with ⟨-, rfl⟩ | ⟨path, i, hfile, -⟩
    · exact .memory hhandles
    · cases hfile
  | @file path contents i mode rows hhandles hresolve hfile hwhole hread =>
    obtain rfl := hhandles b hb
    rcases hcases with ⟨hmemory, -⟩ | ⟨path', i', hfile', rfl⟩
    · cases hmemory
    · obtain ⟨rfl, rfl⟩ := Backend.file.inj hfile'
      exact .file hhandles
        (Files.Tree.resolve_of_grows hresolve hfile (Files.Tree.grows_append _ _ _))
        (Files.Tree.getElem?_append hfile _) (Record.whole_append_encode contents user password)
        (Record.readAll_append_encode hwhole hread huser hpassword)

/-! ## Opening -/

theorem openFiles_cases {path : Bytes} {count : Nat}
    (h : Backend.openFiles s path (count + 1) = .ok (handles, s')) :
    ∃ i files others, s.files.openAppend path = .ok (i, files) ∧
      handles = .file path i :: others ∧
      Backend.openFiles { s with files } path count = .ok (others, s') := by
  unfold Backend.openFiles Backend.openFile at h
  cases hopen : s.files.openAppend path with
  | error f => simp [hopen] at h
  | ok found =>
    obtain ⟨i, files⟩ := found
    simp only [hopen] at h
    cases hothers : Backend.openFiles { s with files } path count with
    | error f => simp [hothers] at h
    | ok opened =>
      obtain ⟨others, later⟩ := opened
      simp only [hothers] at h
      obtain ⟨rfl, rfl⟩ := Prod.mk.inj (Except.ok.inj h)
      exact ⟨i, files, others, rfl, rfl, hothers⟩

/-- Handles that are opened under the name of a file are handles on that file. -/
theorem openFiles_of_resolve {path data : Bytes} {i mode count : Nat}
    (hresolve : s.files.resolve path = .ok i)
    (hfile : s.files.objects[i]? = some (.file mode data))
    (h : Backend.openFiles s path count = .ok (handles, s')) :
    (∀ b ∈ handles, b = .file path i) ∧ s' = s := by
  induction count generalizing handles with
  | zero =>
    obtain ⟨rfl, rfl⟩ := Prod.mk.inj (Except.ok.inj h)
    exact ⟨List.forall_mem_nil _, rfl⟩
  | succ count ih =>
    obtain ⟨j, files, others, hopen, rfl, hothers⟩ := openFiles_cases h
    obtain ⟨rfl, rfl⟩ := Files.Tree.openAppend_of_resolve hresolve hfile hopen
    obtain ⟨hall, hsame⟩ := ih hothers
    exact ⟨List.forall_mem_cons.mpr ⟨rfl, hall⟩, hsame⟩

/-- The storage with one credential file: the file is found under its name, opened, and read. -/
theorem openFile_credentialFile (contents : Bytes) :
    let s : Storage :=
      { files := Files.Tree.empty.put (Utf8.encode "users.db") (.file 0o644 contents) }
    let b := Backend.file (Utf8.encode "users.db") 2
    s.files.objects[2]? = some (.file 0o644 contents) ∧
      s.files.resolve (Utf8.encode "users.db") = .ok 2 ∧
      Backend.openFile s (Utf8.encode "users.db") = .ok (b, s) ∧
      b.rows s = Record.readAll contents := by
  intro s b
  have hname : Files.Tree.Plain (Utf8.encode "users.db") :=
    ⟨by decide +kernel, by decide +kernel, by decide +kernel⟩
  obtain ⟨hfile, hresolve, hopen⟩ := Files.Tree.openAppend_put_empty hname (by decide +kernel)
    (by decide +kernel) (by decide +kernel) 0o644 contents
  refine ⟨hfile, hresolve, ?_, ?_⟩
  · simp [Backend.openFile, s, b, hopen]
  · simp [Backend.rows, s, b, Files.Tree.read, Files.Tree.contentsAt, hresolve, hfile, bind,
      Except.bind]

/-- A store that was opened holds some rows. -/
theorem holds_of_opened (h : Opened handles s) (hb : b ∈ handles) :
    ∃ rows, Holds handles s rows := by
  cases h with
  | memory count => exact ⟨_, .memory fun b hb => List.eq_of_mem_replicate hb⟩
  | @file before _ path count _ hbefore hopen =>
    cases count with
    | zero =>
      obtain ⟨rfl, -⟩ := Prod.mk.inj (Except.ok.inj hopen)
      cases hb
    | succ count =>
      obtain ⟨i, files, others, hfirst, rfl, hothers⟩ := openFiles_cases hopen
      obtain ⟨hresolve, mode, contents, hfile, hcontents⟩ := Files.Tree.resolve_of_openAppend hfirst
      obtain ⟨hall, rfl⟩ := openFiles_of_resolve hresolve hfile hothers
      -- the file is new, or it is the one that was there before
      obtain ⟨hwhole, rows, hread⟩ : Record.Whole contents ∧
          ∃ rows, Record.readAll contents = .ok rows := by
        rcases hcontents with rfl | hcontents
        · exact ⟨Or.inl rfl, [], rfl⟩
        · obtain ⟨hwhole, htext⟩ := hbefore contents hcontents
          obtain ⟨text, htext⟩ := Option.isSome_iff_exists.mp htext
          exact ⟨hwhole, Record.readAll_of_decode htext⟩
      exact ⟨rows, .file (List.forall_mem_cons.mpr ⟨rfl, hall⟩) hresolve hfile hwhole hread⟩

/-! ## One use -/

/-- That the handles hold these rows and exactly the users in them are known. -/
structure Agrees (handles : List Backend) (rows : List Row) (s : Shared) : Prop where
  holds : Holds handles s.storage rows
  known : s.credentials = Credentials.ofRows rows

theorem ofRows_concat (rows : List Row) (user password : String) :
    Credentials.ofRows (rows ++ [(user, password)])
      = (Credentials.ofRows rows).put user password := by
  simp [Credentials.ofRows]

/-- A user who becomes known was not known, and the row was added. -/
theorem enrol_eq_ok {c : Credentials} {result : Credentials × Storage}
    (h : c.enrol b s user password = .ok result) :
    c.password? user = none ∧
      ∃ later, b.addRow s user password = .ok later ∧ result = (c.put user password, later) := by
  unfold Credentials.enrol at h
  split at h
  case isTrue => cases h
  case isFalse hnone =>
    refine ⟨by simpa using hnone, ?_⟩
    cases hadd : b.addRow s user password with
    | error f => simp [hadd] at h
    | ok later =>
      simp only [hadd] at h
      exact ⟨later, rfl, (Except.ok.inj h).symm⟩

namespace Shared

variable {sh : Shared} {u : Use}

/-- Adding a user fails and changes nothing, or adds the row of a user who was not known. -/
theorem act_register_cases (sh : Shared) (b : Backend) (user password : String) :
    (∃ f, sh.act (.register b user password) = (.added (.error f), sh)) ∨
      ∃ later, sh.credentials.password? user = none ∧
        b.addRow sh.storage user password = .ok later ∧
        sh.act (.register b user password) =
          (.added (.ok ()), ⟨sh.credentials.put user password, later⟩) := by
  cases henrol : sh.credentials.enrol b sh.storage user password with
  | error f => exact Or.inl ⟨f, by simp [act, session, Session.insert, henrol]⟩
  | ok result =>
    obtain ⟨hnone, later, hadd, rfl⟩ := enrol_eq_ok henrol
    exact Or.inr ⟨later, hnone, hadd, by simp [act, session, Session.insert, henrol]⟩

/-- A user is added if the name is new, both fields can be written and the storage takes
rows. -/
theorem act_register_added_iff :
    (sh.act (.register b user password)).1 = .added (.ok ()) ↔
      sh.credentials.password? user = none ∧ Record.isField user = true ∧
        Record.isField password = true ∧ b.Takes sh.storage := by
  rw [← exists_addRow_iff]
  rcases sh.act_register_cases b user password with ⟨f, hact⟩ | ⟨later, hnone, hadd, hact⟩
  · constructor
    · intro h
      rw [hact] at h
      cases h
    · rintro ⟨hnone, later, hadd⟩
      simp [act, session, Session.insert, Credentials.enrol, hnone, hadd] at hact
  · rw [hact]
    exact ⟨fun _ => ⟨hnone, later, hadd⟩, fun _ => rfl⟩

/-- A use changes no row or puts one at the end, and the users that are known with it. -/
theorem agrees_act (h : Agrees handles rows sh) (hu : u.Through handles) :
    Agrees handles (rows ++ (addedRow? (u, (sh.act u).1)).toList) (sh.act u).2 := by
  obtain ⟨hholds, hknown⟩ := h
  have hsame : ∀ later : Shared, later.credentials = sh.credentials →
      later.storage.table.rows = sh.storage.table.rows →
      later.storage.files = sh.storage.files → Agrees handles (rows ++ []) later := by
    intro later hcredentials hrows hfiles
    rw [List.append_nil]
    exact ⟨hholds.of_same hrows hfiles, hcredentials.trans hknown⟩
  cases u with
  | register b user password =>
    rcases sh.act_register_cases b user password with ⟨f, hact⟩ | ⟨later, -, hadd, hact⟩
    · rw [hact]
      exact hsame sh rfl rfl rfl
    · rw [hact]
      refine ⟨hholds.addRow hu hadd, ?_⟩
      rw [hknown]
      exact (ofRows_concat rows user password).symm
  | lookup user => exact hsame _ rfl rfl rfl
  | verify user password => exact hsame _ rfl rfl rfl
  | setFailing failing => exact hsame _ rfl rfl rfl
  | setUnwritable fault => exact hsame _ rfl rfl rfl

/-! ## A run of uses -/

theorem addedRows_log_cons (sh : Shared) (u : Use) (uses : List Use) :
    addedRows (sh.log (u :: uses)) =
      (addedRow? (u, (sh.act u).1)).toList ++ addedRows ((sh.act u).2.log uses) := by
  unfold addedRows
  rw [log, List.filterMap_cons]
  cases addedRow? (u, (sh.act u).1) <;> rfl

/-- The rows after a run are those before it and then those that its log has added. -/
theorem agrees_after {uses : List Use} (h : Agrees handles rows sh)
    (huses : ∀ u ∈ uses, u.Through handles) :
    Agrees handles (rows ++ addedRows (sh.log uses)) (sh.after uses) := by
  induction uses generalizing sh rows with
  | nil => simpa [log, addedRows] using h
  | cons u uses ih =>
    obtain ⟨hu, huses⟩ := List.forall_mem_cons.mp huses
    rw [addedRows_log_cons, ← List.append_assoc, after_cons]
    exact ih (agrees_act h hu) huses

/-- A user who is known keeps the password in a use. -/
theorem password?_act (h : sh.credentials.password? name = some password) (u : Use) :
    (sh.act u).2.credentials.password? name = some password := by
  cases u with
  | register b user other =>
    rcases sh.act_register_cases b user other with ⟨f, hact⟩ | ⟨later, hnone, -, hact⟩
    · rw [hact]
      exact h
    · have hne : name ≠ user := by
        rintro rfl
        rw [hnone] at h
        cases h
      rw [hact, Credentials.password?_put_ne _ _ hne]
      exact h
  | _ => exact h

/-- Once a user has a password, it is the same in every later state. -/
theorem password?_after (h : sh.credentials.password? name = some password) (uses : List Use) :
    (sh.after uses).credentials.password? name = some password := by
  induction uses generalizing sh with
  | nil => exact h
  | cons u uses ih => exact ih (password?_act h u)

/-- Who is added by a use was not known before it and is known after it. -/
theorem password?_of_addedRow? {row : Row} (h : addedRow? (u, (sh.act u).1) = some row) :
    sh.credentials.password? row.1 = none ∧
      (sh.act u).2.credentials.password? row.1 = some row.2 := by
  cases u with
  | register b user password =>
    rcases sh.act_register_cases b user password with ⟨f, hact⟩ | ⟨later, hnone, -, hact⟩
    · rw [hact] at h
      cases h
    · rw [hact] at h ⊢
      obtain rfl := Option.some.inj h
      exact ⟨hnone, Credentials.password?_put _ _ _⟩
  | _ => cases h

/-- Who is added in a run was not known before it. -/
theorem unknown_of_mem_addedRows {uses : List Use} {row : Row}
    (h : row ∈ addedRows (sh.log uses)) : sh.credentials.password? row.1 = none := by
  induction uses generalizing sh with
  | nil => cases h
  | cons u uses ih =>
    rw [addedRows_log_cons, List.mem_append] at h
    rcases h with h | h
    · exact (password?_of_addedRow? (Option.mem_toList.mp h)).1
    · refine Option.eq_none_iff_forall_ne_some.mpr fun password hknown => ?_
      have hnone := ih h
      rw [password?_act hknown u] at hnone
      cases hnone

/-- Nobody is added twice. -/
theorem nodup_addedRows (sh : Shared) (uses : List Use) :
    ((addedRows (sh.log uses)).map Prod.fst).Nodup := by
  induction uses generalizing sh with
  | nil => exact List.nodup_nil
  | cons u uses ih =>
    rw [addedRows_log_cons]
    cases hadded : addedRow? (u, (sh.act u).1) with
    | none => exact ih _
    | some row =>
      refine List.nodup_cons.mpr ⟨fun hmem => ?_, ih _⟩
      obtain ⟨other, hother, heq⟩ := List.mem_map.mp hmem
      have hnone := unknown_of_mem_addedRows hother
      rw [heq, (password?_of_addedRow? hadded).2] at hnone
      cases hnone

/-! ## The store at every moment -/

/-- The known users and the storage never part.  A store that was opened is loaded, through
any handle.  After any uses of it:

* every handle reads the rows there were and then those that were added, and loading them
  gives the users that are known;
* adding one more user fails and leaves everything as it was, or puts one row at the end;
* nobody was added twice, and nobody who was known at the beginning;
* a look-up that found a password finds the same one at any later time. -/
theorem users_follow_rows (h : Opened handles s) (hb : b ∈ handles) :
    ∃ rows credentials, b.rows s = .ok rows ∧ Credentials.ofBackend b s = .ok credentials ∧
      ∀ uses : List Use, (∀ u ∈ uses, u.Through handles) →
        let start : Shared := ⟨credentials, s⟩
        let now := start.after uses
        let added := addedRows (start.log uses)
        (∀ other ∈ handles, other.rows now.storage = .ok (rows ++ added) ∧
          Credentials.ofBackend other now.storage = .ok now.credentials) ∧
        (∀ other ∈ handles, ∀ user password,
          (∃ f, now.act (.register other user password) = (.added (.error f), now)) ∨
          ∃ later, now.act (.register other user password) = (.added (.ok ()), later) ∧
            ∀ any ∈ handles,
              any.rows later.storage = .ok (rows ++ added ++ [(user, password)])) ∧
        ((added.map Prod.fst).Nodup ∧
          ∀ row ∈ added, credentials.password? row.1 = none) ∧
        ∀ name password, (now.act (.lookup name)).1 = .password (some password) →
          ∀ later, ((now.after later).act (.lookup name)).1 = .password (some password) := by
  obtain ⟨rows, hholds⟩ := holds_of_opened h hb
  refine ⟨rows, Credentials.ofRows rows, hholds.rows_eq hb, hholds.ofBackend_eq hb,
    fun uses huses => ?_⟩
  intro start now added
  have hstart : Agrees handles rows start := ⟨hholds, rfl⟩
  have hnow : Agrees handles (rows ++ added) now := agrees_after hstart huses
  refine ⟨fun other hother => ⟨hnow.holds.rows_eq hother, ?_⟩,
    fun other hother user password => ?_,
    ⟨nodup_addedRows start uses, fun row hrow => unknown_of_mem_addedRows hrow⟩,
    fun name password hfound later => ?_⟩
  · rw [hnow.holds.ofBackend_eq hother, hnow.known]
  · rcases now.act_register_cases other user password with hact | ⟨later, -, hadd, hact⟩
    · exact Or.inl hact
    · exact Or.inr ⟨_, hact, fun any hany => (hnow.holds.addRow hother hadd).rows_eq hany⟩
  · exact congrArg Outcome.password (password?_after (Outcome.password.inj hfound) later)

/-- A credential file that holds one name twice. -/
def repeated : Storage :=
  { files := Files.Tree.empty.put (Utf8.encode "users.db")
      (.file 0o644 (Utf8.encode "ann\tx\nann\ty\n")) }

/-- The later password of a name that a file holds twice counts, and goes on counting however two
handles on the file are used. -/
theorem users_follow_rows_of_repeated_name :
    Opened [.file (Utf8.encode "users.db") 2, .file (Utf8.encode "users.db") 2] repeated ∧
      Credentials.ofBackend (.file (Utf8.encode "users.db") 2) repeated = .ok ⟨[("ann", "y")]⟩ ∧
      ∀ uses : List Use,
        (∀ u ∈ uses,
          u.Through [.file (Utf8.encode "users.db") 2, .file (Utf8.encode "users.db") 2]) →
        Credentials.ofBackend (.file (Utf8.encode "users.db") 2)
            ((⟨⟨[("ann", "y")]⟩, repeated⟩ : Shared).after uses).storage =
          .ok ((⟨⟨[("ann", "y")]⟩, repeated⟩ : Shared).after uses).credentials := by
  obtain ⟨hfile, hresolve, hfirst, hrows⟩ :=
    openFile_credentialFile (Utf8.encode "ann\tx\nann\ty\n")
  have hread : repeated.files.read (Utf8.encode "users.db")
      = .ok (Utf8.encode "ann\tx\nann\ty\n") := by
    simp [repeated, Files.Tree.read, Files.Tree.contentsAt, hresolve, hfile, bind, Except.bind]
  have hopen : Backend.openFiles repeated (Utf8.encode "users.db") 2
      = .ok ([.file (Utf8.encode "users.db") 2, .file (Utf8.encode "users.db") 2], repeated) := by
    simp only [repeated, Backend.openFiles, hfirst]
  have hopened : Opened [.file (Utf8.encode "users.db") 2, .file (Utf8.encode "users.db") 2]
      repeated := by
    refine .file (fun contents hcontents => ?_) hopen
    obtain rfl := Except.ok.inj (hread.symm.trans hcontents)
    exact ⟨Or.inr (by decide +kernel), by decide +kernel⟩
  have hload : Credentials.ofBackend (.file (Utf8.encode "users.db") 2) repeated
      = .ok ⟨[("ann", "y")]⟩ := by
    rw [Credentials.ofBackend, repeated, hrows]
    decide +kernel
  obtain ⟨rows, credentials, -, hloaded, hruns⟩ := users_follow_rows hopened List.mem_cons_self
  obtain rfl := Except.ok.inj (hload.symm.trans hloaded)
  exact ⟨hopened, hload, fun uses huses => ((hruns uses huses).1 _ List.mem_cons_self).2⟩

end Shared
end Store
end SiteServer
