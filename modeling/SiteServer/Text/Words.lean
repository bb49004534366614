/-!
# Cutting and comparing text

The few operations on runs of characters that the protocol needs: cutting at
separators, taking blanks off both ends, and comparing without regard to the case
of the letters `A` to `Z`.
-/

namespace SiteServer
namespace Text

/-- Cuts a list at every separator.  The pieces may be empty, and there is one
more of them than there are separators. -/
def split {α : Type} (sep : α → Bool) : List α → List (List α)
  | [] => [[]]
  | c :: cs =>
    if sep c then [] :: split sep cs
    else
      match split sep cs with
      | [] => [[c]]
      | w :: ws => (c :: w) :: ws

/-- The maximal runs without separators. -/
def words {α : Type} (sep : α → Bool) (cs : List α) : List (List α) :=
  (split sep cs).filter fun w => !w.isEmpty

/-- Takes separators off both ends. -/
def trim {α : Type} (sep : α → Bool) (cs : List α) : List α :=
  ((cs.dropWhile sep).reverse.dropWhile sep).reverse

/-- A space or a tab. -/
def isBlank (c : Char) : Bool := c = ' ' || c = '\t'

/-- Equality up to the case of the letters `A` to `Z`. -/
def eqIgnoreCase (xs ys : List Char) : Bool := xs.map Char.toLower == ys.map Char.toLower

/-- What follows `word` in the text, if the text begins with it up to case. -/
def afterIgnoreCase? (word text : List Char) : Option (List Char) :=
  if eqIgnoreCase (text.take word.length) word then some (text.drop word.length) else none

/-- What comes before and after the first separator, if there is one. -/
def splitOnce? {α : Type} (sep : α → Bool) : List α → Option (List α × List α)
  | [] => none
  | c :: cs =>
    if sep c then some ([], cs)
    else (splitOnce? sep cs).map fun (a, b) => (c :: a, b)

/-- What follows the first occurrence of `word`, if there is one. -/
def afterFirst? (word : List Char) : List Char → Option (List Char)
  | [] => if word.isEmpty then some [] else none
  | c :: cs =>
    if word.isPrefixOf (c :: cs) then some ((c :: cs).drop word.length)
    else afterFirst? word cs

/-- What comes after the last separator, or everything if there is none. -/
def afterLast {α : Type} (sep : α → Bool) (cs : List α) : List α :=
  (cs.reverse.takeWhile fun c => !sep c).reverse

/-! ## Small facts -/

theorem split_ne_nil {α : Type} (sep : α → Bool) (cs : List α) : split sep cs ≠ [] := by
  induction cs with
  | nil => simp [split]
  | cons c cs ih =>
    unfold split
    split
    · simp
    · split <;> simp

/-- Without a separator there is one piece. -/
theorem split_eq_singleton {α : Type} {sep : α → Bool} {cs : List α}
    (h : ∀ c ∈ cs, sep c = false) : split sep cs = [cs] := by
  induction cs with
  | nil => rfl
  | cons c cs ih =>
    have hc := h c (by simp)
    have hcs := ih fun x hx => h x (by simp [hx])
    simp [split, hc, hcs]

/-- No piece holds a separator. -/
theorem not_sep_of_mem_split {α : Type} {sep : α → Bool} {cs w : List α}
    (hw : w ∈ split sep cs) : ∀ c ∈ w, sep c = false := by
  induction cs generalizing w with
  | nil => simp [split] at hw; simp [hw]
  | cons c cs ih =>
    unfold split at hw
    split at hw
    case isTrue =>
      rcases List.mem_cons.1 hw with rfl | hw
      · simp
      · exact ih hw
    case isFalse hc =>
      split at hw
      case h_1 he => exact absurd he (split_ne_nil sep cs)
      case h_2 v vs he =>
        rcases List.mem_cons.1 hw with rfl | hw
        · intro x hx
          rcases List.mem_cons.1 hx with rfl | hx
          · simpa using hc
          · exact ih (by rw [he]; simp) x hx
        · exact ih (by rw [he]; simp [hw])

end Text
end SiteServer
