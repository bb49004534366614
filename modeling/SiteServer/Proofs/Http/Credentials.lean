import SiteServer.Http.Form
import SiteServer.Proofs.Text.Searching

/-!
# What credential forms say

A form is read the same way whether its characters or its octets are looked at, and what is read
determines how the form is put together.

* `credentials?_eq_some_iff`: what is read in a form, by its parts (`Spells`).
* `Spells.unique`: a text has such parts in one way at most.
* `credentialOctets?_encodeChars`: the octets of a form are cut between characters only, and give
  the octets of the name and of the password.
-/

namespace SiteServer
namespace Http
namespace Form

open Utf8

/-- The parts of a form: the name stands between the first `user=`, behind `front`, and the next
`&`, and the password is all that follows `&passwd=`. -/
structure Spells (body front user password : List Char) : Prop where
  body_eq : body = front ++ "user=".toList ++ user ++ "&passwd=".toList ++ password
  first : ∀ other, other ++ "user=".toList <+: body → front.length ≤ other.length
  user_ne_nil : user ≠ []
  not_mem_user : '&' ∉ user

variable {word text rest body front user password : List Char}

/-! ## In characters -/

theorem dropWord?_eq_some_iff : dropWord? word text = some rest ↔ text = word ++ rest := by
  unfold dropWord?
  split
  case isTrue hword =>
    obtain ⟨rest', rfl⟩ := List.isPrefixOf_iff_prefix.mp hword
    rw [List.drop_left, Option.some.injEq, List.append_cancel_left_eq]
  case isFalse hword =>
    refine iff_of_false nofun fun htext => hword ?_
    exact List.isPrefixOf_iff_prefix.mpr ⟨rest, htext.symm⟩

/-- What is read in a form is what it spells, with the first of several occurrences. -/
theorem credentials?_eq_some_iff :
    credentials? body = some (user, password) ↔ ∃ front, Spells body front user password := by
  constructor
  · intro h
    unfold credentials? at h
    split at h
    case h_1 => cases h
    case h_2 rest hafter =>
      split at h
      case h_1 => cases h
      case h_2 user' rest' hcut =>
        split at h
        case h_1 => cases h
        case h_2 password' hdrop =>
          split at h
          case isTrue => cases h
          case isFalse hempty =>
            obtain ⟨rfl, rfl⟩ := Prod.mk.inj (Option.some.inj h)
            obtain ⟨front, hbody, hfirst⟩ := Text.afterFirst?_eq_some_iff.mp hafter
            obtain ⟨rfl, hfree⟩ := Text.splitOnce?_eq_some_iff.mp hcut
            obtain rfl := dropWord?_eq_some_iff.mp hdrop
            refine ⟨front, ?_, hfirst, fun hnil => hempty (List.isEmpty_iff.mpr hnil), hfree⟩
            rw [hbody, List.append_assoc _ "&passwd=".toList, List.append_assoc _ user']
            rfl
  · rintro ⟨front, h⟩
    have hafter : Text.afterFirst? userMark body
        = some (user ++ '&' :: (passwordMark ++ password)) := by
      refine Text.afterFirst?_eq_some_iff.mpr ⟨front, ?_, h.first⟩
      rw [h.body_eq, List.append_assoc _ "&passwd=".toList, List.append_assoc _ user]
      rfl
    have hcut := Text.splitOnce?_eq_some_iff.mpr
      ⟨Eq.refl (user ++ '&' :: (passwordMark ++ password)), h.not_mem_user⟩
    have hdrop := dropWord?_eq_some_iff.mpr (Eq.refl (passwordMark ++ password))
    have hempty : user.isEmpty = false := List.isEmpty_eq_false_iff.mpr h.user_ne_nil
    simp only [credentials?, hafter, hcut, hdrop, hempty]
    rfl

/-- A text is a form in one way at most. -/
theorem Spells.unique {front' user' password' : List Char} (h : Spells body front user password)
    (h' : Spells body front' user' password') :
    front = front' ∧ user = user' ∧ password = password' := by
  have hread := credentials?_eq_some_iff.mpr ⟨front, h⟩
  rw [credentials?_eq_some_iff.mpr ⟨front', h'⟩] at hread
  obtain ⟨huser, hpassword⟩ := Prod.mk.inj (Option.some.inj hread)
  have hstarts : ∀ {front user password}, Spells body front user password →
      front ++ "user=".toList <+: body := by
    intro front user password h
    exact ⟨user ++ "&passwd=".toList ++ password, by rw [h.body_eq]; simp only [List.append_assoc]⟩
  have hlength : front.length = front'.length :=
    Nat.le_antisymm (h.first _ (hstarts h')) (h'.first _ (hstarts h))
  have hsame := List.prefix_of_prefix_length_le ((List.prefix_append _ _).trans (hstarts h))
    ((List.prefix_append _ _).trans (hstarts h')) (Nat.le_of_eq hlength)
  exact ⟨hsame.eq_of_length hlength, huser.symm, hpassword.symm⟩

theorem spells_of_nothing_before (hne : user ≠ []) (hfree : '&' ∉ user) :
    Spells ("user=".toList ++ user ++ "&passwd=".toList ++ password) [] user password :=
  ⟨rfl, fun _ _ => Nat.zero_le _, hne, hfree⟩

/-! ## In octets -/

theorem octetsAfter?_encodeChars (hword : word ≠ []) (text : List Char) :
    octetsAfter? (encodeChars word) (encodeChars text)
      = .ok ((Text.afterFirst? word text).map encodeChars) := by
  rw [octetsAfter?, place?_encodeChars hword, Text.afterFirst?_eq_place?]
  cases hplace : Text.place? word text with
  | none => rfl
  | some place =>
    obtain ⟨front, rest, rfl, hfront, hrest⟩ := Text.exists_parts_of_place? hplace
    simp only [Option.map_some, hfront, hrest, cut_behind]
    rfl

theorem octetsAround?_encodeChars (c : Char) (text : List Char) :
    octetsAround? (encodeChars [c]) (encodeChars text)
      = .ok ((Text.splitOnce? (· = c) text).map (Prod.map encodeChars encodeChars)) := by
  rw [octetsAround?, place?_encodeChars (List.cons_ne_nil c []), Text.splitOnce?_eq_place?]
  cases hplace : Text.place? [c] text with
  | none => rfl
  | some place =>
    obtain ⟨front, rest, rfl, hfront, hrest⟩ := Text.exists_parts_of_place? hplace
    rw [List.length_singleton] at hrest
    have hbefore : cut (encodeChars (front ++ [c] ++ rest)) (encodeChars front).length
        = .ok (encodeChars front, encodeChars ([c] ++ rest)) := by
      rw [List.append_assoc, encodeChars_append, cut_append]
    simp only [Option.map_some, hfront, hrest, hbefore, cut_behind]
    rfl

theorem dropOctets?_encodeChars (word text : List Char) :
    dropOctets? (encodeChars word) (encodeChars text)
      = .ok ((dropWord? word text).map encodeChars) := by
  have hsame : (encodeChars word).isPrefixOf (encodeChars text) = word.isPrefixOf text := by
    rw [Bool.eq_iff_iff, List.isPrefixOf_iff_prefix, List.isPrefixOf_iff_prefix,
      encodeChars_prefix_iff]
  rw [dropOctets?, dropWord?, hsame]
  split
  case isTrue hword =>
    obtain ⟨rest, rfl⟩ := List.isPrefixOf_iff_prefix.mp hword
    rw [encodeChars_append, cut_append, List.drop_left]
    rfl
  case isFalse => rfl

/-- No cut goes through a character, and the octets read are those of what is read in
characters. -/
theorem credentialOctets?_encodeChars (body : List Char) :
    credentialOctets? (encodeChars body)
      = .ok ((credentials? body).map (Prod.map encodeChars encodeChars)) := by
  have hmark : userMark ≠ [] := by decide
  unfold credentialOctets? credentials?
  rw [octetsAfter?_encodeChars hmark]
  cases Text.afterFirst? userMark body with
  | none => rfl
  | some rest =>
    simp only [Option.map_some, bind, Except.bind, octetsAround?_encodeChars]
    cases Text.splitOnce? (· = '&') rest with
    | none => rfl
    | some parts =>
      obtain ⟨user, rest⟩ := parts
      simp only [Option.map_some, Prod.map_apply, dropOctets?_encodeChars]
      cases dropWord? passwordMark rest with
      | none => rfl
      | some password =>
        cases user with
        | nil => rfl
        | cons c user =>
          have hsome : (encodeChars (c :: user)).isEmpty = false :=
            List.isEmpty_eq_false_iff.mpr (encodeChars_ne_nil (List.cons_ne_nil c user))
          simp only [Option.map_some, hsome]
          rfl

/-! ## Both together -/

/-- **A form is read in one way only.**  A user and a password are read in a text exactly if it is
a form that spells them, and it spells one user and one password at most, in one place.  Reading
its octets gives the octets of the two, and every cut on the way goes between characters.  Every
user whose name is not empty and holds no `&` can be spelled, with every password. -/
theorem read_iff_spells :
    (∀ body user password, credentials? body = some (user, password) ↔
      ∃ front, Spells body front user password) ∧
    (∀ body front user password front' user' password',
      Spells body front user password → Spells body front' user' password' →
      front = front' ∧ user = user' ∧ password = password') ∧
    (∀ body, credentialOctets? (encodeChars body)
      = .ok ((credentials? body).map (Prod.map encodeChars encodeChars))) ∧
    ∀ user password, user ≠ [] → '&' ∉ user →
      credentials? ("user=".toList ++ user ++ "&passwd=".toList ++ password)
        = some (user, password) :=
  ⟨fun _ _ _ => credentials?_eq_some_iff, fun _ _ _ _ _ _ _ h h' => h.unique h',
    credentialOctets?_encodeChars,
    fun _ _ hne hfree => credentials?_eq_some_iff.mpr ⟨[], spells_of_nothing_before hne hfree⟩⟩

/-- Marks may stand in the name and in the password, and characters of several octets anywhere. -/
theorem read_iff_spells_of_repeated_marks :
    let user := "é user=".toList
    let password := "&passwd=user=é&".toList
    user ≠ [] ∧ '&' ∉ user ∧
      credentials? ("user=".toList ++ user ++ "&passwd=".toList ++ password)
        = some (user, password) ∧
      ∃ front, Spells ("user=".toList ++ user ++ "&passwd=".toList ++ password) front user
        password := by
  intro user password
  have hne : user ≠ [] := by decide
  have hfree : '&' ∉ user := by decide
  obtain ⟨hread, -, -, hspelled⟩ := read_iff_spells
  have hgiven := hspelled user password hne hfree
  exact ⟨hne, hfree, hgiven, (hread _ _ _).mp hgiven⟩

end Form
end Http
end SiteServer
