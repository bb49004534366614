/-!
# Decimal numbers of a bounded size

How a number is read from a header, an argument or a variable: an optional plus
sign and one or more decimal digits, read from the left.  The first thing that
goes wrong is the one reported, so a number that is already too large is called
so before what follows it is looked at.
-/

namespace SiteServer
namespace Text

/-- Why a text is not a number. -/
inductive NumberFault where
  | empty
  | invalidDigit
  | tooLarge
  deriving DecidableEq, Repr

namespace NumberFault

/-- The wording of a fault. -/
def message : NumberFault → String
  | empty => "cannot parse integer from empty string"
  | invalidDigit => "invalid digit found in string"
  | tooLarge => "number too large to fit in target type"

end NumberFault

/-- The largest number of sixteen bits. -/
def max16 : Nat := 0xFFFF

/-- The largest number of thirty-two bits. -/
def max32 : Nat := 0xFFFFFFFF

/-- The largest number of sixty-four bits. -/
def max64 : Nat := 0xFFFFFFFFFFFFFFFF

/-- The value of a decimal digit. -/
def digit? (c : Char) : Option Nat :=
  if '0' ≤ c ∧ c ≤ '9' then some (c.toNat - 48) else none

/-- The number some decimal digits write. -/
def decimalNumber (digits : List Char) : Nat :=
  digits.foldl (fun n c => n * 10 + (digit? c).getD 0) 0

/-- The number of any size that a text writes: decimal digits and nothing else, at least one. -/
def decimal? (text : List Char) : Option Nat :=
  if text ≠ [] ∧ text.all (fun c => (digit? c).isSome) then some (decimalNumber text) else none

/-- Reads digits after a number `value` that has been read already. -/
def readDigits (limit value : Nat) : List Char → Except NumberFault Nat
  | [] => .ok value
  | c :: cs =>
    match digit? c with
    | none => .error .invalidDigit
    | some d =>
      if value * 10 + d ≤ limit then readDigits limit (value * 10 + d) cs
      else .error .tooLarge

/-- Reads a number that is at most `limit`. -/
def readUnsigned (limit : Nat) (text : List Char) : Except NumberFault Nat :=
  match text with
  | [] => .error .empty
  | '+' :: [] => .error .invalidDigit
  | '+' :: c :: cs => readDigits limit 0 (c :: cs)
  | c :: cs => readDigits limit 0 (c :: cs)

end Text
end SiteServer
