/-!
# Punycode

A label of a domain name in which every character is ASCII can stand for one in which
some are not.  The ASCII characters of the label come first, up to the last hyphen;
the digits after it say, one number after another, where the next larger character
goes.  A number has no fixed length: each digit is compared with a threshold that
depends on its place and on the numbers before, and one below it ends the number.

Reading is a fold over the digits; a label is well formed if it ends between two
numbers.
-/

namespace SiteServer
namespace Url
namespace Punycode

def base : Nat := 36
def tMin : Nat := 1
def tMax : Nat := 26
def skew : Nat := 38
def damp : Nat := 700
def initialBias : Nat := 72
def initialPoint : Nat := 0x80

/-- The largest number of a well formed label. -/
def maxNumber : Nat := 0xFFFFFFFF

/-- The value of a digit. -/
def digit? (c : Char) : Option Nat :=
  if 'a' ≤ c ∧ c ≤ 'z' then some (c.toNat - 97)
  else if 'A' ≤ c ∧ c ≤ 'Z' then some (c.toNat - 65)
  else if '0' ≤ c ∧ c ≤ '9' then some (c.toNat - 48 + 26)
  else none

/-- The threshold of the digit at place `k`. -/
def threshold (k bias : Nat) : Nat :=
  if k ≤ bias then tMin else if bias + tMax ≤ k then tMax else k - bias

/-- Scales a number down until it is small, counting places. -/
def scale (delta k : Nat) : Nat :=
  if (base - tMin) * tMax / 2 < delta then scale (delta / (base - tMin)) (k + base)
  else k + (base - tMin + 1) * delta / (delta + skew)
termination_by delta
decreasing_by exact Nat.div_lt_self (by omega) (by decide)

/-- The bias after a number, when `count` characters are in place. -/
def adapt (delta count : Nat) (first : Bool) : Nat :=
  let delta := if first then delta / damp else delta / 2
  scale (delta + delta / count) 0

/-- A reader's place in a label. -/
structure Reader where
  /-- The characters in place. -/
  output : List Nat
  /-- The character that comes next. -/
  point : Nat := initialPoint
  /-- Where the last character was put, and one more. -/
  position : Nat := 0
  bias : Nat := initialBias
  /-- The number being read, as far as it has been read. -/
  number : Nat := 0
  /-- What the next digit counts. -/
  weight : Nat := 1
  /-- The place of the next digit. -/
  place : Nat := base

namespace Reader

/-- Puts the next character where a finished number says. -/
def finish (r : Reader) (number : Nat) : Option Reader :=
  let count := r.output.length + 1
  let sum := r.position + number
  let point := r.point + sum / count
  let position := sum % count
  if maxNumber < sum ∨ ¬ point.isValidChar then none
  else
    some {
      output := r.output.take position ++ point :: r.output.drop position
      point := point
      position := position + 1
      bias := adapt number count (r.output.all (· < initialPoint)) }

/-- Takes one digit. -/
def take (r : Reader) (c : Char) : Option Reader :=
  match digit? c with
  | none => none
  | some d =>
    let number := r.number + d * r.weight
    let t := threshold r.place r.bias
    if maxNumber < number then none
    else if d < t then r.finish number
    else some { r with number, weight := r.weight * (base - t), place := r.place + base }

/-- Whether the reader stands between two numbers. -/
def isBetween (r : Reader) : Bool := r.place = base

end Reader

/-- The ASCII characters of a label and the digits after them. -/
def parts (label : List Char) : List Char × List Char :=
  let digits := (label.reverse.takeWhile (· ≠ '-')).reverse
  let plain := label.take (label.length - digits.length - 1)
  if plain.isEmpty then ([], label) else (plain, digits)

/-- The code points a label stands for. -/
def decode? (label : List Char) : Option (List Nat) :=
  let (plain, digits) := parts label
  let start : Reader := { output := plain.map Char.toNat }
  match digits.foldl (fun r c => r.bind fun r => r.take c) (some start) with
  | some r => if r.isBetween then some r.output else none
  | none => none

end Punycode
end Url
end SiteServer
