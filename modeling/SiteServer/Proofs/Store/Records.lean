import SiteServer.Proofs.Text.Reading
import SiteServer.Store.Record

/-!
# Credential files read back

A record that is written at the end of a file whose lines are all ended is read back as it
was, behind the records the file held before.

* `readAll_append_encode`: the records of a file after one more was written.
* `readAll_of_decode`: a file that is text can be read.
-/

namespace SiteServer
namespace Store
namespace Record

open Text (split)

variable {contents more : Bytes} {rows : List Row} {user password : String}

/-! ## Lines -/

/-- Every line of the contents is ended. -/
def Whole (contents : Bytes) : Prop := contents = [] ∨ contents.getLast? = some Bytes.lf

theorem linesOf_append (pieces : List Bytes) {rest : List Bytes} (hrest : rest ≠ []) :
    linesOf (pieces ++ rest) = pieces.map dropReturn ++ linesOf rest := by
  induction pieces with
  | nil => rfl
  | cons piece pieces ih =>
    obtain ⟨next, later, hnext⟩ :=
      List.exists_cons_of_ne_nil (List.append_ne_nil_of_right_ne_nil pieces hrest)
    rw [List.cons_append, hnext, linesOf, ← hnext, ih]
    · rfl
    · exact fun heq => List.cons_ne_nil next later heq

theorem lines_append_lf (before more : Bytes) :
    lines (before ++ Bytes.lf :: more) =
      (split (· = Bytes.lf) before).map dropReturn ++ lines more := by
  rw [lines, Text.split_append_cons_sep before (by simp),
    linesOf_append _ (Text.split_ne_nil _ more)]
  rfl

/-- What is written after lines that are all ended is lines of its own. -/
theorem lines_append (h : Whole contents) (more : Bytes) :
    lines (contents ++ more) = lines contents ++ lines more := by
  rcases h with rfl | h
  · rfl
  · obtain ⟨before, rfl⟩ := List.getLast?_eq_some_iff.mp h
    rw [List.append_assoc, List.singleton_append, lines_append_lf, lines_append_lf]
    simp [lines, split, linesOf]

/-! ## Records -/

theorem readLines_append {early late : List Bytes} (h : readLines early = .ok rows) :
    readLines (early ++ late) = (readLines late).map (rows ++ ·) := by
  induction early generalizing rows with
  | nil =>
    obtain rfl := Except.ok.inj h
    cases hlate : readLines late <;> simp [hlate, Except.map]
  | cons line early ih =>
    rw [readLines] at h
    cases htext : Utf8.decodeChars line with
    | none => simp [htext] at h
    | some text =>
      cases hearly : readLines early with
      | error f => simp [htext, hearly] at h
      | ok first =>
        simp only [htext, hearly] at h
        obtain rfl := Except.ok.inj h
        rw [List.cons_append, readLines, htext, ih hearly]
        cases hlate : readLines late <;> simp [Except.map]

theorem readAll_append (hwhole : Whole contents) (h : readAll contents = .ok rows)
    (more : Bytes) : readAll (contents ++ more) = (readAll more).map (rows ++ ·) := by
  rw [readAll, lines_append hwhole, readLines_append h]
  rfl

/-! ## One record -/

theorem check_eq_ok {value : String} (h : check value = .ok ()) :
    value.toList ≠ [] ∧ ∀ c ∈ value.toList, isBreaking c = false := by
  unfold check at h
  split at h
  case isTrue hfield => simpa [isField] using hfield
  case isFalse => cases h

theorem encode_eq (user password : String) :
    encode user password =
      Utf8.encodeChars (user.toList ++ '\t' :: password.toList) ++ [Bytes.lf] := by
  have hlf : Utf8.encodeChars ['\n'] = [Bytes.lf] := by decide
  rw [encode, Utf8.encode, ← hlf, ← Utf8.encodeChars_append]
  simp

theorem whole_append_encode (contents : Bytes) (user password : String) :
    Whole (contents ++ encode user password) := by
  refine Or.inr ?_
  rw [encode_eq, ← List.append_assoc, List.getLast?_concat]

/-- A record has no end of line within it. -/
theorem not_mem_record (huser : check user = .ok ()) (hpassword : check password = .ok ())
    {c : Char} (hc : c = '\n' ∨ c = '\r') : c ∉ user.toList ++ '\t' :: password.toList := by
  have hbreaking : isBreaking c = true := by
    rcases hc with rfl | rfl <;> rfl
  have htab : c ≠ '\t' := by
    rcases hc with rfl | rfl <;> decide
  intro hmem
  rcases List.mem_append.mp hmem with hmem | hmem
  · exact Bool.false_ne_true (((check_eq_ok huser).2 c hmem).symm.trans hbreaking)
  · rcases List.mem_cons.mp hmem with heq | hmem
    · exact htab heq
    · exact Bool.false_ne_true (((check_eq_ok hpassword).2 c hmem).symm.trans hbreaking)

/-- Octets with an end of line nowhere, and a record behind them, are one line. -/
theorem lines_append_encode {torn : Bytes} (htorn : Bytes.lf ∉ torn)
    (huser : check user = .ok ()) (hpassword : check password = .ok ()) :
    lines (torn ++ encode user password)
      = [torn ++ Utf8.encodeChars (user.toList ++ '\t' :: password.toList)] := by
  have hlf : Bytes.lf ∉ Utf8.encodeChars (user.toList ++ '\t' :: password.toList) :=
    Utf8.not_mem_encodeChars (by decide) (not_mem_record huser hpassword (Or.inl rfl))
  have hcr : (torn ++ Utf8.encodeChars (user.toList ++ '\t' :: password.toList)).getLast?
      ≠ some Bytes.cr := by
    intro hlast
    obtain ⟨b, hb⟩ := Option.isSome_iff_exists.mp (List.getLast?_isSome.mpr
      (Utf8.encodeChars_ne_nil (List.append_ne_nil_of_right_ne_nil user.toList
        (List.cons_ne_nil '\t' password.toList))))
    rw [List.getLast?_append, hb] at hlast
    exact Utf8.not_mem_encodeChars (by decide) (not_mem_record huser hpassword (Or.inr rfl))
      (List.mem_of_getLast? (hb.trans hlast))
  rw [encode_eq, ← List.append_assoc, lines_append_lf, Text.split_eq_singleton,
    List.map_singleton, dropReturn, if_neg hcr]
  · rfl
  · intro b hb
    refine decide_eq_false fun heq => ?_
    rcases List.mem_append.mp hb with hb | hb
    · exact htorn (heq ▸ hb)
    · exact hlf (heq ▸ hb)

theorem not_tab_of_check (huser : check user = .ok ()) :
    ∀ c ∈ user.toList, decide (c = '\t') = false := by
  intro c hc
  have hfield := (check_eq_ok huser).2 c hc
  simp only [isBreaking, Bool.or_eq_false_iff] at hfield
  exact hfield.1.1

/-- A record that is written reads back. -/
theorem readAll_encode (huser : check user = .ok ()) (hpassword : check password = .ok ()) :
    readAll (encode user password) = .ok [(user, password)] := by
  have hline := lines_append_encode List.not_mem_nil huser hpassword
  rw [List.nil_append] at hline
  rw [readAll, hline, List.nil_append, readLines, Utf8.decodeChars_encodeChars]
  simp only [readLines, ofLine?,
    Text.splitOnce?_append_sep (not_tab_of_check huser) (decide_eq_true rfl)]
  simp

/-- The records of a file after one more was written. -/
theorem readAll_append_encode (hwhole : Whole contents) (h : readAll contents = .ok rows)
    (huser : check user = .ok ()) (hpassword : check password = .ok ()) :
    readAll (contents ++ encode user password) = .ok (rows ++ [(user, password)]) := by
  rw [readAll_append hwhole h, readAll_encode huser hpassword]
  rfl

/-! ## Text -/

/-- Text is cut into lines as its octets are. -/
theorem split_encodeChars (cs : List Char) :
    split (· = Bytes.lf) (Utf8.encodeChars cs) = (split (· = '\n') cs).map Utf8.encodeChars := by
  induction cs with
  | nil => rfl
  | cons c cs ih =>
    obtain ⟨piece, pieces, hpieces⟩ :=
      List.exists_cons_of_ne_nil (Text.split_ne_nil (· = '\n') cs)
    by_cases hc : c = '\n'
    · have hlf : Utf8.encodeChar '\n' = [Bytes.lf] := by decide
      rw [hc, Utf8.encodeChars_cons, hlf, List.singleton_append, split, if_pos (by simp), split,
        if_pos (by simp), ih]
      rfl
    · have hrun : ∀ b ∈ Utf8.encodeChar c, decide (b = Bytes.lf) = false := by
        intro b hb
        refine decide_eq_false fun hlf => hc ?_
        subst hlf
        exact Char.toNat_inj.mp (Utf8.toNat_of_mem_encodeChar (by decide) hb)
      rw [Utf8.encodeChars_cons, Text.split_append hrun, ih, split, if_neg (by simpa using hc),
        hpieces]
      rfl

/-- A line of text without its carriage return is text. -/
theorem exists_dropReturn (cs : List Char) :
    ∃ text, dropReturn (Utf8.encodeChars cs) = Utf8.encodeChars text := by
  unfold dropReturn
  split
  case isFalse => exact ⟨cs, rfl⟩
  case isTrue hlast =>
    rcases List.eq_nil_or_concat cs with rfl | ⟨before, c, rfl⟩
    · cases hlast
    · have hmem : Bytes.cr ∈ Utf8.encodeChar c := by
        rw [List.concat_eq_append, Utf8.encodeChars_append, List.getLast?_append] at hlast
        obtain ⟨b, hb⟩ := Option.isSome_iff_exists.mp
          (List.getLast?_isSome.mpr (Utf8.encodeChar_ne_nil c))
        rw [Utf8.encodeChars_cons, Utf8.encodeChars_nil, List.append_nil, hb] at hlast
        exact Option.some.inj hlast ▸ List.mem_of_getLast? hb
      obtain rfl : c = '\r' :=
        Char.toNat_inj.mp (Utf8.toNat_of_mem_encodeChar (by decide) hmem)
      have hcr : Utf8.encodeChars ['\r'] = [Bytes.cr] := by decide
      refine ⟨before, ?_⟩
      rw [List.concat_eq_append, Utf8.encodeChars_append, hcr, List.dropLast_concat]

theorem exists_linesOf (pieces : List (List Char)) :
    ∃ texts : List (List Char),
      linesOf (pieces.map Utf8.encodeChars) = texts.map Utf8.encodeChars := by
  induction pieces with
  | nil => exact ⟨[], rfl⟩
  | cons piece pieces ih =>
    obtain ⟨texts, htexts⟩ := ih
    cases pieces with
    | nil =>
      by_cases hempty : (Utf8.encodeChars piece).isEmpty
      · exact ⟨[], by simp [linesOf, hempty]⟩
      · exact ⟨[piece], by simp [linesOf, hempty]⟩
    | cons next pieces =>
      obtain ⟨text, htext⟩ := exists_dropReturn piece
      have hcons : linesOf ((piece :: next :: pieces).map Utf8.encodeChars)
          = dropReturn (Utf8.encodeChars piece)
            :: linesOf ((next :: pieces).map Utf8.encodeChars) := rfl
      exact ⟨text :: texts, by rw [hcons, htext, htexts]; rfl⟩

theorem readLines_encodeChars (texts : List (List Char)) :
    readLines (texts.map Utf8.encodeChars) = .ok (texts.filterMap ofLine?) := by
  induction texts with
  | nil => rfl
  | cons text texts ih =>
    rw [List.map_cons, readLines, Utf8.decodeChars_encodeChars, ih]
    cases h : ofLine? text <;> simp [h]

/-- A file that is text can be read. -/
theorem readAll_of_decode {text : String} (h : Utf8.decode contents = some text) :
    ∃ rows, readAll contents = .ok rows := by
  obtain ⟨cs, hcs, -⟩ := Option.map_eq_some_iff.mp h
  obtain ⟨texts, htexts⟩ := exists_linesOf (split (· = '\n') cs)
  refine ⟨texts.filterMap ofLine?, ?_⟩
  rw [readAll, lines, Utf8.decodeChars_eq_some_iff.mp hcs, split_encodeChars, htexts,
    readLines_encodeChars]

end Record
end Store
end SiteServer
