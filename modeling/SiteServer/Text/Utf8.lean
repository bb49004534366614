import SiteServer.Bytes

/-!
# Text as octets

UTF-8 in both directions.  `decodeChars` accepts exactly the octet strings that
`encodeChars` writes: a character has one written form, the shortest, and
surrogates have none.  `decodeLossy` never refuses; it puts the replacement
character in the place of every ill-formed piece, where a piece is as long as it
could still have begun a character.

Main statements: `decodeChars_encodeChars` (what is written reads back) and
`encodeChars_of_decodeChars` (what reads was written), together
`decodeChars_eq_some_iff`.
-/

namespace SiteServer
namespace Utf8

/-! ## Writing -/

/-- The octets of one character. -/
def encodeChar (c : Char) : Bytes :=
  let v := c.toNat
  if v < 0x80 then [UInt8.ofNat v]
  else if v < 0x800 then [UInt8.ofNat (0xC0 + v / 0x40), UInt8.ofNat (0x80 + v % 0x40)]
  else if v < 0x10000 then
    [UInt8.ofNat (0xE0 + v / 0x1000), UInt8.ofNat (0x80 + v / 0x40 % 0x40),
      UInt8.ofNat (0x80 + v % 0x40)]
  else
    [UInt8.ofNat (0xF0 + v / 0x40000), UInt8.ofNat (0x80 + v / 0x1000 % 0x40),
      UInt8.ofNat (0x80 + v / 0x40 % 0x40), UInt8.ofNat (0x80 + v % 0x40)]

/-- The octets of a run of characters. -/
def encodeChars (cs : List Char) : Bytes := cs.flatMap encodeChar

/-- The octets of a string. -/
def encode (s : String) : Bytes := encodeChars s.toList

/-! ## Reading -/

/-- A continuation octet, `80` to `BF`. -/
def isTail (b : UInt8) : Bool := 0x80 ≤ b.toNat && b.toNat < 0xC0

/-- The character with scalar value `v`, unless `v` is below `low`, where a
shorter form exists, or is no scalar value. -/
def scalar? (low v : Nat) : Option Char :=
  if h : low ≤ v ∧ v.isValidChar then some (Char.ofNatAux v h.2) else none

/-- The character that two octets spell. -/
def pair? (a b : UInt8) : Option Char :=
  if isTail b then scalar? 0x80 ((a.toNat - 0xC0) * 0x40 + (b.toNat - 0x80)) else none

/-- The character that three octets spell. -/
def triple? (a b c : UInt8) : Option Char :=
  if isTail b && isTail c then
    scalar? 0x800
      ((a.toNat - 0xE0) * 0x1000 + (b.toNat - 0x80) * 0x40 + (c.toNat - 0x80))
  else none

/-- The character that four octets spell. -/
def quad? (a b c d : UInt8) : Option Char :=
  if isTail b && isTail c && isTail d then
    scalar? 0x10000
      ((a.toNat - 0xF0) * 0x40000 + (b.toNat - 0x80) * 0x1000 + (c.toNat - 0x80) * 0x40
        + (d.toNat - 0x80))
  else none

/-- The characters that the octets spell, if they are well formed throughout. -/
def decodeChars : Bytes → Option (List Char)
  | [] => some []
  | a :: rest =>
    if a.toNat < 0x80 then
      (decodeChars rest).map (Char.ofNat a.toNat :: ·)
    else if a.toNat < 0xC0 then none
    else if a.toNat < 0xE0 then
      match rest with
      | b :: rest => (pair? a b).bind fun c => (decodeChars rest).map (c :: ·)
      | _ => none
    else if a.toNat < 0xF0 then
      match rest with
      | b :: c :: rest => (triple? a b c).bind fun x => (decodeChars rest).map (x :: ·)
      | _ => none
    else if a.toNat < 0xF8 then
      match rest with
      | b :: c :: d :: rest => (quad? a b c d).bind fun x => (decodeChars rest).map (x :: ·)
      | _ => none
    else none

/-- The string that the octets spell, if they are well formed throughout. -/
def decode (bytes : Bytes) : Option String := (decodeChars bytes).map String.ofList

/-- The replacement character, shown for octets that spell nothing. -/
def replacement : Char := Char.ofNat 0xFFFD

/-- Whether `b` may follow the leading octet `a` of a character of three or four
octets. -/
def mayFollow (a b : UInt8) : Bool :=
  isTail b &&
    (if a.toNat = 0xE0 then 0xA0 ≤ b.toNat
     else if a.toNat = 0xED then b.toNat < 0xA0
     else if a.toNat = 0xF0 then 0x90 ≤ b.toNat
     else if a.toNat = 0xF4 then b.toNat < 0x90
     else 0xE0 ≤ a.toNat && a.toNat < 0xF5)

/-- Reads what can be read and puts one replacement character for each
ill-formed piece. -/
def decodeLossy : Bytes → List Char
  | [] => []
  | a :: rest =>
    if a.toNat < 0x80 then Char.ofNat a.toNat :: decodeLossy rest
    else if a.toNat < 0xC2 then replacement :: decodeLossy rest
    else if a.toNat < 0xE0 then
      match rest with
      | b :: tail =>
        match pair? a b with
        | some c => c :: decodeLossy tail
        | none => replacement :: decodeLossy (b :: tail)
      | [] => [replacement]
    else
      match rest with
      | b :: tail =>
        if mayFollow a b then
          match tail with
          | c :: tail =>
            if a.toNat < 0xF0 then
              match triple? a b c with
              | some x => x :: decodeLossy tail
              | none => replacement :: decodeLossy (c :: tail)
            else if isTail c then
              match tail with
              | d :: tail =>
                match quad? a b c d with
                | some x => x :: decodeLossy tail
                | none => replacement :: decodeLossy (d :: tail)
              | [] => [replacement]
            else replacement :: decodeLossy (c :: tail)
          | [] => [replacement]
        else replacement :: decodeLossy (b :: tail)
      | [] => [replacement]

/-! ## The two directions agree -/

@[simp] theorem encodeChars_nil : encodeChars [] = [] := rfl

@[simp] theorem encodeChars_cons (c : Char) (cs : List Char) :
    encodeChars (c :: cs) = encodeChar c ++ encodeChars cs := rfl

theorem encodeChars_append (xs ys : List Char) :
    encodeChars (xs ++ ys) = encodeChars xs ++ encodeChars ys := by
  simp [encodeChars]

@[simp] theorem decodeChars_nil : decodeChars [] = some [] := rfl

theorem toNat_valid (c : Char) : c.toNat.isValidChar := c.valid

theorem ofNatAux_toNat (c : Char) (h : c.toNat.isValidChar) : Char.ofNatAux c.toNat h = c := by
  apply Char.ext
  apply UInt32.toNat_inj.1
  rfl

theorem toNat_ofNatAux (v : Nat) (h : v.isValidChar) : (Char.ofNatAux v h).toNat = v := rfl

/-- A scalar value is below `110000`. -/
theorem toNat_lt (c : Char) : c.toNat < 0x110000 := by
  rcases toNat_valid c with h | h <;> omega

/-- Reading undoes writing, whatever follows. -/
theorem decodeChars_encodeChar_append (c : Char) (rest : Bytes) :
    decodeChars (encodeChar c ++ rest) = (decodeChars rest).map (c :: ·) := by
  have bound := toNat_lt c
  have key : ∀ low, low ≤ c.toNat → scalar? low c.toNat = some c := by
    intro low h
    rw [scalar?, dif_pos ⟨h, toNat_valid c⟩, ofNatAux_toNat]
  unfold encodeChar
  dsimp only
  split
  case isTrue h1 =>
    have : (UInt8.ofNat c.toNat).toNat = c.toNat := by
      rw [UInt8.toNat_ofNat']; omega
    rw [List.cons_append, List.nil_append, decodeChars.eq_def]
    dsimp only
    rw [this, if_pos h1, Char.ofNat_toNat]
  case isFalse h1 =>
  split
  case isTrue h2 =>
    have ha : (UInt8.ofNat (0xC0 + c.toNat / 0x40)).toNat = 0xC0 + c.toNat / 0x40 := by
      rw [UInt8.toNat_ofNat']; omega
    have hb : (UInt8.ofNat (0x80 + c.toNat % 0x40)).toNat = 0x80 + c.toNat % 0x40 := by
      rw [UInt8.toNat_ofNat']; omega
    have hv : (0xC0 + c.toNat / 0x40 - 0xC0) * 0x40 + (0x80 + c.toNat % 0x40 - 0x80)
        = c.toNat := by omega
    have ht : isTail (UInt8.ofNat (0x80 + c.toNat % 0x40)) = true := by
      simp only [isTail, hb, Bool.and_eq_true, decide_eq_true_eq]; omega
    have hp : pair? (UInt8.ofNat (0xC0 + c.toNat / 0x40)) (UInt8.ofNat (0x80 + c.toNat % 0x40))
        = some c := by
      rw [pair?, if_pos ht, ha, hb, hv]
      exact key _ (by omega)
    rw [List.cons_append, List.cons_append, List.nil_append, decodeChars, ha,
      if_neg (by omega), if_neg (by omega), if_pos (by omega)]
    simp only [hp, Option.bind_some]
  case isFalse h2 =>
  split
  case isTrue h3 =>
    have ha : (UInt8.ofNat (0xE0 + c.toNat / 0x1000)).toNat = 0xE0 + c.toNat / 0x1000 := by
      rw [UInt8.toNat_ofNat']; omega
    have hb : (UInt8.ofNat (0x80 + c.toNat / 0x40 % 0x40)).toNat
        = 0x80 + c.toNat / 0x40 % 0x40 := by
      rw [UInt8.toNat_ofNat']; omega
    have hc : (UInt8.ofNat (0x80 + c.toNat % 0x40)).toNat = 0x80 + c.toNat % 0x40 := by
      rw [UInt8.toNat_ofNat']; omega
    have ht : (isTail (UInt8.ofNat (0x80 + c.toNat / 0x40 % 0x40))
        && isTail (UInt8.ofNat (0x80 + c.toNat % 0x40))) = true := by
      simp only [isTail, hb, hc, Bool.and_eq_true, decide_eq_true_eq]; omega
    have hv : (0xE0 + c.toNat / 0x1000 - 0xE0) * 0x1000
        + (0x80 + c.toNat / 0x40 % 0x40 - 0x80) * 0x40 + (0x80 + c.toNat % 0x40 - 0x80)
        = c.toNat := by omega
    have hp : triple? (UInt8.ofNat (0xE0 + c.toNat / 0x1000))
        (UInt8.ofNat (0x80 + c.toNat / 0x40 % 0x40)) (UInt8.ofNat (0x80 + c.toNat % 0x40))
        = some c := by
      rw [triple?, if_pos ht, ha, hb, hc, hv]
      exact key _ (by omega)
    rw [List.cons_append, List.cons_append, List.cons_append, List.nil_append, decodeChars, ha,
      if_neg (by omega), if_neg (by omega), if_neg (by omega), if_pos (by omega)]
    simp only [hp, Option.bind_some]
  case isFalse h3 =>
    have ha : (UInt8.ofNat (0xF0 + c.toNat / 0x40000)).toNat = 0xF0 + c.toNat / 0x40000 := by
      rw [UInt8.toNat_ofNat']; omega
    have hb : (UInt8.ofNat (0x80 + c.toNat / 0x1000 % 0x40)).toNat
        = 0x80 + c.toNat / 0x1000 % 0x40 := by
      rw [UInt8.toNat_ofNat']; omega
    have hc : (UInt8.ofNat (0x80 + c.toNat / 0x40 % 0x40)).toNat
        = 0x80 + c.toNat / 0x40 % 0x40 := by
      rw [UInt8.toNat_ofNat']; omega
    have hd : (UInt8.ofNat (0x80 + c.toNat % 0x40)).toNat = 0x80 + c.toNat % 0x40 := by
      rw [UInt8.toNat_ofNat']; omega
    have ht : (isTail (UInt8.ofNat (0x80 + c.toNat / 0x1000 % 0x40))
        && isTail (UInt8.ofNat (0x80 + c.toNat / 0x40 % 0x40))
        && isTail (UInt8.ofNat (0x80 + c.toNat % 0x40))) = true := by
      simp only [isTail, hb, hc, hd, Bool.and_eq_true, decide_eq_true_eq]; omega
    have hv : (0xF0 + c.toNat / 0x40000 - 0xF0) * 0x40000
        + (0x80 + c.toNat / 0x1000 % 0x40 - 0x80) * 0x1000
        + (0x80 + c.toNat / 0x40 % 0x40 - 0x80) * 0x40 + (0x80 + c.toNat % 0x40 - 0x80)
        = c.toNat := by omega
    have hp : quad? (UInt8.ofNat (0xF0 + c.toNat / 0x40000))
        (UInt8.ofNat (0x80 + c.toNat / 0x1000 % 0x40))
        (UInt8.ofNat (0x80 + c.toNat / 0x40 % 0x40)) (UInt8.ofNat (0x80 + c.toNat % 0x40))
        = some c := by
      rw [quad?, if_pos ht, ha, hb, hc, hd, hv]
      exact key _ (by omega)
    rw [List.cons_append, List.cons_append, List.cons_append, List.cons_append, List.nil_append,
      decodeChars, ha, if_neg (by omega), if_neg (by omega), if_neg (by omega),
      if_neg (by omega), if_pos (by omega)]
    simp only [hp, Option.bind_some]

/-- What is written reads back. -/
theorem decodeChars_encodeChars (cs : List Char) : decodeChars (encodeChars cs) = some cs := by
  induction cs with
  | nil => rfl
  | cons c cs ih => simp [decodeChars_encodeChar_append, ih]

/-! ## Only written forms are read -/

theorem scalar?_eq_some {low v : Nat} {c : Char} (h : scalar? low v = some c) :
    c.toNat = v ∧ low ≤ v := by
  by_cases hv : low ≤ v ∧ v.isValidChar
  · rw [scalar?, dif_pos hv] at h
    cases h
    exact ⟨toNat_ofNatAux v hv.2, hv.1⟩
  · rw [scalar?, dif_neg hv] at h
    cases h

theorem isTail_bounds {b : UInt8} (h : isTail b = true) : 0x80 ≤ b.toNat ∧ b.toNat < 0xC0 := by
  simpa [isTail] using h

theorem ofNat_eq {n : Nat} {b : UInt8} (h : n = b.toNat) : UInt8.ofNat n = b := by
  rw [h, UInt8.ofNat_toNat]

theorem encodeChar_of_pair? {a b : UInt8} {c : Char} (ha : 0xC0 ≤ a.toNat ∧ a.toNat < 0xE0)
    (h : pair? a b = some c) : encodeChar c = [a, b] := by
  unfold pair? at h
  split at h
  case isFalse => cases h
  case isTrue ht =>
  obtain ⟨hv, low⟩ := scalar?_eq_some h
  have hb := isTail_bounds ht
  unfold encodeChar
  dsimp only
  rw [if_neg (by omega), if_pos (by omega)]
  rw [ofNat_eq (b := a) (by omega), ofNat_eq (b := b) (by omega)]

theorem encodeChar_of_triple? {a b c : UInt8} {x : Char}
    (ha : 0xE0 ≤ a.toNat ∧ a.toNat < 0xF0) (h : triple? a b c = some x) :
    encodeChar x = [a, b, c] := by
  unfold triple? at h
  split at h
  case isFalse => cases h
  case isTrue ht =>
  obtain ⟨hv, low⟩ := scalar?_eq_some h
  rw [Bool.and_eq_true] at ht
  have hb := isTail_bounds ht.1
  have hc := isTail_bounds ht.2
  unfold encodeChar
  dsimp only
  rw [if_neg (by omega), if_neg (by omega), if_pos (by omega)]
  rw [ofNat_eq (b := a) (by omega), ofNat_eq (b := b) (by omega), ofNat_eq (b := c) (by omega)]

theorem encodeChar_of_quad? {a b c d : UInt8} {x : Char}
    (ha : 0xF0 ≤ a.toNat ∧ a.toNat < 0xF8) (h : quad? a b c d = some x) :
    encodeChar x = [a, b, c, d] := by
  unfold quad? at h
  split at h
  case isFalse => cases h
  case isTrue ht =>
  obtain ⟨hv, low⟩ := scalar?_eq_some h
  rw [Bool.and_eq_true, Bool.and_eq_true] at ht
  have hb := isTail_bounds ht.1.1
  have hc := isTail_bounds ht.1.2
  have hd := isTail_bounds ht.2
  unfold encodeChar
  dsimp only
  rw [if_neg (by omega), if_neg (by omega), if_neg (by omega)]
  rw [ofNat_eq (b := a) (by omega), ofNat_eq (b := b) (by omega), ofNat_eq (b := c) (by omega),
    ofNat_eq (b := d) (by omega)]

/-- What reads was written. -/
theorem encodeChars_of_decodeChars {bytes : Bytes} {cs : List Char}
    (h : decodeChars bytes = some cs) : encodeChars cs = bytes := by
  induction hn : bytes.length using Nat.strongRecOn generalizing bytes cs with
  | ind n ih =>
  have step : ∀ {x : Char} {rest : Bytes} {cs : List Char}, rest.length < n →
      (decodeChars rest).map (x :: ·) = some cs → encodeChars cs = encodeChar x ++ rest := by
    intro x rest cs hl h
    obtain ⟨tail, ht, rfl⟩ := Option.map_eq_some_iff.1 h
    rw [encodeChars_cons, ih _ hl ht rfl]
  subst hn
  unfold decodeChars at h
  split at h
  case h_1 => cases h; rfl
  case h_2 a rest =>
  split at h
  case isTrue ha =>
    rw [step (by simp) h]
    have hv : (Char.ofNat a.toNat).toNat = a.toNat := by
      rw [Char.ofNat, dif_pos (Or.inl (by omega)), toNat_ofNatAux]
    unfold encodeChar
    dsimp only
    rw [if_pos (by omega), hv, UInt8.ofNat_toNat]
    rfl
  case isFalse =>
  split at h
  case isTrue => cases h
  case isFalse =>
  split at h
  case isTrue =>
    split at h
    case h_2 => cases h
    case h_1 b rest =>
    obtain ⟨x, hx, h⟩ := Option.bind_eq_some_iff.1 h
    rw [step (by simp only [List.length_cons]; omega) h, encodeChar_of_pair? (by omega) hx]
    rfl
  case isFalse =>
  split at h
  case isTrue =>
    split at h
    case h_2 => cases h
    case h_1 b c rest =>
    obtain ⟨x, hx, h⟩ := Option.bind_eq_some_iff.1 h
    rw [step (by simp only [List.length_cons]; omega) h, encodeChar_of_triple? (by omega) hx]
    rfl
  case isFalse =>
  split at h
  case isFalse => cases h
  case isTrue =>
    split at h
    case h_2 => cases h
    case h_1 b c d rest =>
    obtain ⟨x, hx, h⟩ := Option.bind_eq_some_iff.1 h
    rw [step (by simp only [List.length_cons]; omega) h, encodeChar_of_quad? (by omega) hx]
    rfl

theorem decodeChars_eq_some_iff {bytes : Bytes} {cs : List Char} :
    decodeChars bytes = some cs ↔ bytes = encodeChars cs :=
  ⟨fun h => (encodeChars_of_decodeChars h).symm, fun h => h ▸ decodeChars_encodeChars cs⟩

/-! ## Octets of one character -/

theorem encodeChar_ne_nil (c : Char) : encodeChar c ≠ [] := by
  unfold encodeChar
  dsimp only
  split
  · exact List.cons_ne_nil _ _
  · split
    · exact List.cons_ne_nil _ _
    · split <;> exact List.cons_ne_nil _ _

/-- An octet below `80` belongs to the character that has its number, and to no other. -/
theorem toNat_of_mem_encodeChar {b : UInt8} {c : Char} (hb : b.toNat < 0x80)
    (h : b ∈ encodeChar c) : c.toNat = b.toNat := by
  have bound := toNat_lt c
  have high : ∀ n, 0x80 ≤ n → n < 0x100 → b ≠ UInt8.ofNat n := by
    rintro n hlow hhigh rfl
    rw [UInt8.toNat_ofNat'] at hb
    omega
  unfold encodeChar at h
  dsimp only at h
  split at h
  case isTrue hc =>
    rw [List.mem_singleton.1 h, UInt8.toNat_ofNat']
    omega
  case isFalse =>
  -- the octets of a longer form are all above
  split at h
  case isTrue =>
    simp only [List.mem_cons, List.not_mem_nil, or_false] at h
    rcases h with h | h <;> exact absurd h (high _ (by omega) (by omega))
  case isFalse =>
  split at h
  case isTrue =>
    simp only [List.mem_cons, List.not_mem_nil, or_false] at h
    rcases h with h | h | h <;> exact absurd h (high _ (by omega) (by omega))
  case isFalse =>
    simp only [List.mem_cons, List.not_mem_nil, or_false] at h
    rcases h with h | h | h | h <;> exact absurd h (high _ (by omega) (by omega))

/-- An octet below `80` is written for a character that has its number. -/
theorem exists_of_mem_encodeChars {b : UInt8} {cs : List Char} (hb : b.toNat < 0x80)
    (h : b ∈ encodeChars cs) : ∃ c ∈ cs, c.toNat = b.toNat := by
  obtain ⟨c, hc, hbc⟩ := List.mem_flatMap.1 h
  exact ⟨c, hc, toNat_of_mem_encodeChar hb hbc⟩

/-- A character below `80` that is not written leaves no trace in the octets. -/
theorem not_mem_encodeChars {cs : List Char} {c : Char} (hc : c.toNat < 0x80) (h : c ∉ cs) :
    UInt8.ofNat c.toNat ∉ encodeChars cs := by
  have hb : (UInt8.ofNat c.toNat).toNat = c.toNat := by
    rw [UInt8.toNat_ofNat']
    omega
  intro hmem
  obtain ⟨d, hd, heq⟩ := exists_of_mem_encodeChars (by omega) hmem
  rw [hb] at heq
  exact h (Char.toNat_inj.mp heq ▸ hd)

theorem encodeChars_ne_nil {cs : List Char} (h : cs ≠ []) : encodeChars cs ≠ [] := by
  obtain ⟨c, cs, rfl⟩ := List.exists_cons_of_ne_nil h
  exact List.append_ne_nil_of_left_ne_nil (encodeChar_ne_nil c) _

/-- A string reads back from its octets. -/
@[simp] theorem decode_encode (s : String) : decode (encode s) = some s := by
  simp [decode, encode, decodeChars_encodeChars]

end Utf8
end SiteServer
