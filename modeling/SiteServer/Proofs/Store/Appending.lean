import Mathlib.Data.List.Induction
import SiteServer.Proofs.Store.Agreement

/-!
# Records behind a line that was not ended

A record is written as a line of its own, but nothing ends the line before it.  The reader takes
a last line that was not ended for a line, so a file that can be read may have one, left by an
editor or by a write that was cut off.  A record that is written behind it becomes a part of it:
its name continues the password of the row in that line, or its own name begins with what the
line holds (`Record.mergedRow`).

So a row that was added is read behind the rows there were if and only if the last line was
ended (`Backend.added_row_read_iff`).  A field that cannot be written leaves the file as it is.
-/

namespace SiteServer
namespace Store

namespace Record

variable {contents before torn : Bytes} {rows : List Row} {user password : String}
  {text : List Char}

/-! ## The last line -/

/-- Contents whose last line is not ended are lines that are ended and that line. -/
theorem exists_torn (h : ¬ Whole contents) :
    ∃ before torn, contents = before ++ torn ∧ Whole before ∧ torn ≠ [] ∧ Bytes.lf ∉ torn := by
  induction contents using List.reverseRecOn with
  | nil => exact absurd (Or.inl rfl) h
  | append_singleton front b ih =>
    have hb : b ≠ Bytes.lf := by
      rintro rfl
      exact h (Or.inr List.getLast?_concat)
    by_cases hfront : Whole front
    · exact ⟨front, [b], rfl, hfront, List.cons_ne_nil _ _, by simpa using hb.symm⟩
    · obtain ⟨before, torn, rfl, hbefore, hne, hlf⟩ := ih hfront
      refine ⟨before, torn ++ [b], List.append_assoc .., hbefore,
        List.append_ne_nil_of_left_ne_nil hne _, ?_⟩
      intro hmem
      rcases List.mem_append.mp hmem with hmem | hmem
      · exact hlf hmem
      · exact hb (List.mem_singleton.mp hmem).symm

theorem lines_of_torn (hne : torn ≠ []) (hlf : Bytes.lf ∉ torn) : lines torn = [torn] := by
  have hsplit : Text.split (· = Bytes.lf) torn = [torn] :=
    Text.split_eq_singleton fun b hb => decide_eq_false fun heq => hlf (heq ▸ hb)
  rw [lines, hsplit, linesOf, if_neg (by simpa using hne)]

/-- Lines that can be read together can be read apart. -/
theorem exists_readLines_of_append {early late : List Bytes}
    (h : readLines (early ++ late) = .ok rows) :
    ∃ first last, readLines early = .ok first ∧ readLines late = .ok last ∧
      rows = first ++ last := by
  obtain ⟨first, hfirst⟩ : ∃ first, readLines early = .ok first := by
    induction early generalizing rows with
    | nil => exact ⟨[], rfl⟩
    | cons line early ih =>
      rw [List.cons_append, readLines] at h
      cases htext : Utf8.decodeChars line with
      | none => simp [htext] at h
      | some text =>
        cases hrest : readLines (early ++ late) with
        | error f => simp [htext, hrest] at h
        | ok more =>
          obtain ⟨first, hfirst⟩ := ih hrest
          exact ⟨(ofLine? text).toList ++ first, by rw [readLines, htext, hfirst]⟩
  rw [readLines_append hfirst] at h
  cases hlast : readLines late with
  | error f => simp [hlast, Except.map] at h
  | ok last =>
    rw [hlast] at h
    exact ⟨first, last, hfirst, rfl, (Except.ok.inj h).symm⟩

/-! ## What becomes of it -/

/-- The row in a line that held this text, once a record was written behind it. -/
def mergedRow (text : List Char) (user password : String) : Row :=
  match Text.splitOnce? (· = '\t') text with
  | some (name, rest) =>
    (String.ofList name, String.ofList (rest ++ (user.toList ++ '\t' :: password.toList)))
  | none => (String.ofList (text ++ user.toList), password)

theorem ofLine?_append (huser : check user = .ok ()) (text : List Char) :
    ofLine? (text ++ (user.toList ++ '\t' :: password.toList))
      = some (mergedRow text user password) := by
  unfold ofLine? mergedRow
  cases hcut : Text.splitOnce? (· = '\t') text with
  | some cut =>
    obtain ⟨name, rest⟩ := cut
    rw [Text.splitOnce?_append_of_some hcut]
    rfl
  | none =>
    have hnone : ∀ c ∈ text ++ user.toList, decide (c = '\t') = false := by
      intro c hc
      rcases List.mem_append.mp hc with hc | hc
      · exact Text.not_sep_of_splitOnce?_eq_none hcut c hc
      · exact not_tab_of_check huser c hc
    rw [← List.append_assoc, Text.splitOnce?_append_sep hnone (decide_eq_true rfl)]
    simp

/-- The row of a record that became a part of a line with something in it is not the record's
own, or one row has been lost. -/
theorem merged_ne (first : List Row) (htext : text ≠ []) :
    first ++ [mergedRow text user password]
      ≠ first ++ (ofLine? text).toList ++ [(user, password)] := by
  intro heq
  rw [List.append_assoc] at heq
  have hlast := List.append_cancel_left heq
  unfold ofLine? mergedRow at hlast
  cases hcut : Text.splitOnce? (· = '\t') text with
  | some cut => simp [hcut] at hlast
  | none =>
    -- the name begins with the text of the line
    simp only [hcut, Option.map_none, Option.toList_none, List.nil_append, List.cons.injEq,
      Prod.mk.injEq, and_true] at hlast
    have hlength := congrArg (fun name => name.toList.length) hlast
    simp only [String.toList_ofList, List.length_append] at hlength
    exact htext (List.length_eq_zero_iff.mp (by omega))

/-- The rows of a file whose last line is not ended, after a record was written behind it. -/
theorem readAll_append_encode_torn (hbefore : Whole before) (hne : torn ≠ [])
    (hlf : Bytes.lf ∉ torn) (h : readAll (before ++ torn) = .ok rows)
    (huser : check user = .ok ()) (hpassword : check password = .ok ()) :
    ∃ first text, text ≠ [] ∧ rows = first ++ (ofLine? text).toList ∧
      readAll (before ++ torn ++ encode user password)
        = .ok (first ++ [mergedRow text user password]) := by
  rw [readAll, lines_append hbefore, lines_of_torn hne hlf] at h
  obtain ⟨first, last, hfirst, hlast, rfl⟩ := exists_readLines_of_append h
  cases hdecode : Utf8.decodeChars torn with
  | none => simp [readLines, hdecode] at hlast
  | some text =>
    obtain rfl : torn = Utf8.encodeChars text := Utf8.decodeChars_eq_some_iff.mp hdecode
    refine ⟨first, text, ?_, ?_, ?_⟩
    · rintro rfl
      exact hne rfl
    · simp only [readLines, hdecode, List.append_nil] at hlast
      rw [Except.ok.inj hlast]
    · rw [List.append_assoc, readAll, lines_append hbefore,
        lines_append_encode hlf huser hpassword, readLines_append hfirst,
        ← Utf8.encodeChars_append]
      simp only [readLines, Utf8.decodeChars_encodeChars, ofLine?_append huser]
      rfl

/-- A record is read behind those there were if and only if the last line was ended. -/
theorem readAll_append_encode_iff (h : readAll contents = .ok rows)
    (huser : check user = .ok ()) (hpassword : check password = .ok ()) :
    readAll (contents ++ encode user password) = .ok (rows ++ [(user, password)]) ↔
      Whole contents := by
  refine ⟨fun hread => ?_, fun hwhole => readAll_append_encode hwhole h huser hpassword⟩
  by_contra hwhole
  obtain ⟨before, torn, rfl, hbefore, hne, hlf⟩ := exists_torn hwhole
  obtain ⟨first, text, htext, rfl, hmerged⟩ :=
    readAll_append_encode_torn hbefore hne hlf h huser hpassword
  exact merged_ne first htext (Except.ok.inj (hmerged.symm.trans hread))

/-! ## Fields -/

/-- A text that cannot stand in a record. -/
def IsUnfit (value : String) : Prop :=
  value = "" ∨ '\t' ∈ value.toList ∨ '\r' ∈ value.toList ∨ '\n' ∈ value.toList

theorem isField_iff {value : String} : isField value = true ↔ ¬ IsUnfit value := by
  rw [isField, IsUnfit, Bool.and_eq_true, Bool.not_eq_true', Bool.not_eq_true',
    List.isEmpty_eq_false_iff, List.any_eq_false, ne_eq, String.toList_eq_nil_iff]
  simp only [isBreaking, Bool.or_eq_true, decide_eq_true_eq, not_or]
  constructor
  · rintro ⟨hne, hall⟩
    exact ⟨hne, fun h => (hall _ h).1.1 rfl, fun h => (hall _ h).1.2 rfl, fun h => (hall _ h).2 rfl⟩
  · rintro ⟨hne, htab, hcr, hlf⟩
    refine ⟨hne, fun c hc => ⟨⟨?_, ?_⟩, ?_⟩⟩ <;> rintro rfl
    · exact htab hc
    · exact hcr hc
    · exact hlf hc

end Record

namespace Backend

variable {b : Backend} {s : Storage} {user password : String}

/-- A field is refused if and only if one cannot stand in a record. -/
theorem addRow_invalidField_iff :
    (∃ value, b.addRow s user password = .error (.invalidField value)) ↔
      Record.IsUnfit user ∨ Record.IsUnfit password := by
  have hfields : (Record.IsUnfit user ∨ Record.IsUnfit password) ↔
      ¬ (Record.isField user = true ∧ Record.isField password = true) := by
    rw [Record.isField_iff, Record.isField_iff, not_and_or, not_not, not_not]
  rw [hfields]
  cases huser : Record.isField user
  · simp [addRow, Record.check, huser]
  · cases hpassword : Record.isField password
    · simp [addRow, Record.check, huser, hpassword]
    · cases b with
      | memory => cases hfailing : s.table.failing <;>
          simp [addRow, Record.check, huser, hpassword, hfailing]
      | file path i => cases hfault : s.unwritable <;>
          simp [addRow, Record.check, huser, hpassword, hfault]

theorem rows_eq_readAll {name contents : Bytes} {i j mode : Nat}
    (hfile : s.files.objects[i]? = some (.file mode contents))
    (hname : s.files.resolve name = .ok i) :
    (file name j).rows s = Record.readAll contents := by
  simp [Backend.rows, Files.Tree.read, Files.Tree.contentsAt, hname, hfile, bind, Except.bind]

/-- After a row was added through any handle on a file, what is read under every name of the file
is its old contents with the record behind them. -/
theorem rows_addRow {name other contents : Bytes} {i k mode : Nat} {later : Storage}
    (hfile : s.files.objects[i]? = some (.file mode contents))
    (hother : s.files.resolve other = .ok i)
    (hadd : (file name i).addRow s user password = .ok later) :
    (file other k).rows later = Record.readAll (contents ++ Record.encode user password) := by
  obtain ⟨-, -, ⟨hmemory, -⟩ | ⟨path', i', hb, rfl⟩⟩ := addRow_cases hadd
  · cases hmemory
  · obtain ⟨rfl, rfl⟩ := file.inj hb
    exact rows_eq_readAll
      (Files.Tree.getElem?_append hfile (Record.encode user password))
      (Files.Tree.resolve_of_grows hother hfile
        (Files.Tree.grows_append s.files i (Record.encode user password)))

/-- What is read after a row was added, under a name under which the file could be read: the rows
there were and that row exactly if the last line was ended, and else the rows of the lines that
were and one row more, which the last line and the record make up. -/
theorem rows_addRow_of_rows {name other contents : Bytes} {i k mode : Nat} {rows : List Row}
    {later : Storage} (hfile : s.files.objects[i]? = some (.file mode contents))
    (hother : s.files.resolve other = .ok i) (hrows : (file other k).rows s = .ok rows)
    (hadd : (file name i).addRow s user password = .ok later) :
    ((file other k).rows later = .ok (rows ++ [(user, password)]) ↔ Record.Whole contents) ∧
      (¬Record.Whole contents → ∃ first text, text ≠ [] ∧
        rows = first ++ (Record.ofLine? text).toList ∧
        (file other k).rows later = .ok (first ++ [Record.mergedRow text user password])) := by
  have hread : Record.readAll contents = .ok rows :=
    (rows_eq_readAll hfile hother).symm.trans hrows
  obtain ⟨huser, hpassword, -⟩ := addRow_cases hadd
  rw [rows_addRow hfile hother hadd]
  refine ⟨Record.readAll_append_encode_iff hread huser hpassword, fun hwhole => ?_⟩
  obtain ⟨before, torn, rfl, hbefore, hne, hlf⟩ := Record.exists_torn hwhole
  exact Record.readAll_append_encode_torn hbefore hne hlf hread huser hpassword

/-- **A row that was added is read behind those there were if and only if the last line was
ended.**  A file can be read, through one of its handles.  If a row is added, through any handle
on the file, then under every name of the file the rows there were are read, and that row behind
them, exactly where every line of the file was ended before.  A row is refused because of its
fields exactly if one of them cannot stand in a record, and nothing has changed then. -/
theorem added_row_read_iff {s : Storage} {i j mode : Nat} {path contents : Bytes}
    {rows : List Row} (hfile : s.files.objects[i]? = some (.file mode contents))
    (hpath : s.files.resolve path = .ok i) (hrows : (file path j).rows s = .ok rows)
    (name : Bytes) (user password : String) :
    let b := file name i
    let later := b.afterAdding s user password
    ((∃ s', b.addRow s user password = .ok s') → ∀ other k, s.files.resolve other = .ok i →
      ((file other k).rows later = .ok (rows ++ [(user, password)]) ↔ Record.Whole contents)) ∧
    ((∃ value, b.addRow s user password = .error (.invalidField value)) ↔
      Record.IsUnfit user ∨ Record.IsUnfit password) ∧
    ((∃ value, b.addRow s user password = .error (.invalidField value)) → later = s) := by
  intro b later
  refine ⟨?_, addRow_invalidField_iff, ?_⟩
  · rintro ⟨s', hadd⟩ other k hother
    have hlater : later = s' := by simp only [later, afterAdding, hadd]
    have hread : (file other k).rows s = .ok rows :=
      (rows_eq_readAll hfile hother).trans ((rows_eq_readAll hfile hpath).symm.trans hrows)
    rw [hlater]
    exact (rows_addRow_of_rows hfile hother hread hadd).1
  · rintro ⟨value, hrefused⟩
    simp only [later, afterAdding, hrefused]

/-- A credential file with one record, a note, and an empty line. -/
def annotated : Storage :=
  { files := Files.Tree.empty.put (Utf8.encode "users.db")
      (.file 0o644 (Utf8.encode "ann\tx\r\n# staff\n\n")) }

/-- A row is added behind the record of an annotated file. -/
theorem added_row_read_iff_of_annotated :
    (file (Utf8.encode "users.db") 2).rows annotated = .ok [("ann", "x")] ∧
      (file (Utf8.encode "users.db") 2).rows
          ((file (Utf8.encode "users.db") 2).afterAdding annotated "bob" "y\"")
        = .ok [("ann", "x"), ("bob", "y\"")] := by
  obtain ⟨hfile, hpath, -, hread⟩ :=
    openFile_credentialFile (Utf8.encode "ann\tx\r\n# staff\n\n")
  have hrows : (file (Utf8.encode "users.db") 2).rows annotated = .ok [("ann", "x")] :=
    hread.trans (by decide +kernel)
  obtain ⟨hadded, -, -⟩ := added_row_read_iff hfile hpath hrows (Utf8.encode "users.db") "bob" "y\""
  exact ⟨hrows, (hadded (exists_addRow_iff.mpr ⟨by decide, by decide, rfl⟩) _ 2 hpath).mpr
    (Or.inr (by decide +kernel))⟩

/-- A credential file with one record in a line that is not ended. -/
def torn : Storage :=
  { files := Files.Tree.empty.put (Utf8.encode "users.db")
      (.file 0o644 (Utf8.encode "ann\tx")) }

/-- A file whose last line is not ended can be read, and a row is added to it; but then that row is
not there, and the password of the other has changed. -/
theorem torn_record_takes_row :
    (file (Utf8.encode "users.db") 2).rows torn = .ok [("ann", "x")] ∧
      (∃ later, (file (Utf8.encode "users.db") 2).addRow torn "bob" "y" = .ok later) ∧
      (file (Utf8.encode "users.db") 2).rows
          ((file (Utf8.encode "users.db") 2).afterAdding torn "bob" "y")
        = .ok [("ann", "xbob\ty")] := by
  obtain ⟨hfile, hpath, -, hread⟩ := openFile_credentialFile (Utf8.encode "ann\tx")
  obtain ⟨later, hadd⟩ :
      ∃ later, (file (Utf8.encode "users.db") 2).addRow torn "bob" "y" = .ok later :=
    exists_addRow_iff.mpr ⟨by decide, by decide, rfl⟩
  refine ⟨hread.trans (by decide +kernel), ⟨later, hadd⟩, ?_⟩
  rw [afterAdding, hadd]
  exact (rows_addRow hfile hpath hadd).trans (by decide +kernel)

end Backend
end Store
end SiteServer
