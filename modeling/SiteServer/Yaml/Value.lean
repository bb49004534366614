import SiteServer.Text.RangeTable
import SiteServer.Text.Unsigned
import SiteServer.Yaml.Node

/-!
# Values in documents

A setting is a scalar or a mapping, or an alias of one.  Any scalar is a text, however
it is written.  A number is written plainly, in decimal, or in base 16, 8 or 2 after
`0x`, `0o` or `0b`; an integer tag makes a literal block a number too.  Where a mapping
is expected nothing at all stands for an empty one.
-/

namespace SiteServer
namespace Yaml

/-! ## Numbers -/

/-- The tag of integers. -/
def integerTag : Bytes := "tag:yaml.org,2002:int".toUTF8.toList

/-- Whether a text has digits only, of which the first is a zero that does not
count. -/
def hasLeadingZero : List Char → Bool
  | '0' :: c :: rest => (c :: rest).all Char.isDigit
  | _ => false

/-- The value of a digit in this base. -/
def digitIn? (radix : Nat) (c : Char) : Option Nat :=
  match Text.hexDigit? c with
  | some d => if d < radix then some d else none
  | none => none

/-- Reads digits in a base. -/
def numberIn? (radix : Nat) (digits : List Char) : Option Nat :=
  if digits.isEmpty then none
  else digits.foldl (fun n c => do some ((← n) * radix + (← digitIn? radix c))) (some 0)

/-- Takes off a plus sign. -/
def withoutPlus : List Char → List Char
  | '+' :: rest => rest
  | text => text

/-- Reads a number. -/
def number? (text : List Char) : Option Nat :=
  match withoutPlus text with
  | '0' :: 'x' :: digits => numberIn? 16 digits
  | '0' :: 'o' :: digits => numberIn? 8 digits
  | '0' :: 'b' :: digits => numberIn? 2 digits
  | digits => if hasLeadingZero digits then none else numberIn? 10 digits

namespace Node

/-- The text in which a scalar writes a number, if it can write one. -/
def numeral? : Node → Option (List Char)
  | .scalar _ .plain text => some text
  | .scalar tag .literal text => if tag = some integerTag then some text else none
  | _ => none

end Node

namespace Document

/-- Reads a text. -/
def text? (d : Document) (n : Node) : Option String :=
  match d.resolve n with
  | some (.scalar _ _ text) => some (String.ofList text)
  | _ => none

/-- Reads a number that is at most `limit`. -/
def natural? (d : Document) (limit : Nat) (n : Node) : Option Nat :=
  match ((d.resolve n).bind Node.numeral?).bind number? with
  | some k => if k ≤ limit then some k else none
  | none => none

/-! ## Mappings -/

/-- Reads the pairs of a mapping, all of whose keys have to be texts.  Only pairs with a
known name count, and each name may occur once. -/
def fieldsFrom? (d : Document) (known : List String) :
    List (Node × Node) → Option (List (String × Node))
  | [] => some []
  | (key, value) :: rest => do
    let name ← d.text? key
    let fields ← d.fieldsFrom? known rest
    if !known.contains name then some fields
    else if (fields.lookup name).isSome then none
    else some ((name, value) :: fields)

/-- Reads the fields of a mapping. -/
def fields? (d : Document) (known : List String) (n : Node) : Option (List (String × Node)) :=
  match d.resolve n with
  | some (.mapping pairs) => d.fieldsFrom? known pairs
  | some m => if m.isLeftOut then some [] else none
  | none => none

end Document

/-- Reads the value of a field, `default` if there is no such field. -/
def readField {α : Type} (fields : List (String × Node)) (name : String) (default : α)
    (read : Node → Option α) : Option α :=
  match fields.lookup name with
  | none => some default
  | some n => read n

end Yaml
end SiteServer
