import SiteServer.Unicode.Bidi
import SiteServer.Unicode.Joining
import SiteServer.Unicode.Mark
import SiteServer.Unicode.NameMapping
import SiteServer.Unicode.Normal
import SiteServer.Url.Punycode

/-!
# Domain names

A domain name is read as a whole: its characters are mapped and brought into composed
normal form, and only then cut at the dots.  A label in Punycode has to stand for one
that would not have been changed by that, and for one that needed Punycode.

Each label is then checked by itself, its first character, its joiners and, if any
label of the name runs from right to left, its directions.
-/

namespace SiteServer
namespace Url
namespace Domain

/-- A label, by its code points. -/
abbrev Label := List Nat

/-- The longest label that is not ASCII. -/
def maxLabel : Nat := 1000

/-- The longest Punycode. -/
def maxPunycode : Nat := 2000

/-- What a label in Punycode begins with. -/
def punycodeMark : Label := "xn--".toList.map Char.toNat

/-- Whether a label is all ASCII. -/
def isAscii (label : Label) : Bool := label.all (· < 0x80)

/-- ASCII characters that no domain name holds. -/
def isBarred (n : Nat) : Bool :=
  n ≤ 0x20 || n = 0x7F || ("#%/:<>?@[\\]^|".toList.map Char.toNat).contains n

/-- Maps the characters of a name.  There is no name with a barred character. -/
def mapAll : List Nat → Option (List Nat)
  | [] => some []
  | n :: rest =>
    match Unicode.nameMapping? n with
    | some .barred => none
    | some .dropped => mapAll rest
    | some (.replaced points) => (mapAll rest).map (points ++ ·)
    | none => (mapAll rest).map (n :: ·)

/-! ## Joiners -/

def nonJoiner : Nat := 0x200C
def joiner : Nat := 0x200D

/-- The combining class of a sign that takes a vowel away. -/
def viramaClass : Nat := 9

/-- The first character that is not transparent joins towards its left. -/
def joinsBack : List Nat → Bool
  | [] => false
  | n :: rest =>
    match Unicode.joiningType? n with
    | some .transparent => joinsBack rest
    | some .right | some .dual => true
    | _ => false

/-- The first character that is not transparent joins towards its right. -/
def joinsOn : List Nat → Bool
  | [] => false
  | n :: rest =>
    match Unicode.joiningType? n with
    | some .transparent => joinsOn rest
    | some .left | some .dual => true
    | _ => false

/-- Whether every joiner may stand where it does.  `passed` is what came before, the
last in front. -/
def joinersFit (passed : List Nat) : List Nat → Bool
  | [] => true
  | n :: rest =>
    let afterVirama := (passed.head?.map Unicode.combiningClass) = some viramaClass
    let fits :=
      if n = joiner then afterVirama
      else if n = nonJoiner then afterVirama || (joinsOn passed && joinsBack rest)
      else true
    fits && joinersFit (n :: passed) rest

/-! ## Directions -/

/-- Whether a character makes its label run from right to left. -/
def turns (n : Nat) : Bool :=
  match Unicode.bidiClass n with
  | .rightToLeft | .arabicLetter | .arabicNumber => true
  | _ => false

/-- The last class that is not a nonspacing mark. -/
def lastClass (classes : List Unicode.BidiClass) : Option Unicode.BidiClass :=
  (classes.reverse.dropWhile (· = .nonspacingMark)).head?

/-- Classes that may stand in a label of either direction. -/
def isShared : Unicode.BidiClass → Bool
  | .europeanNumber | .europeanSeparator | .commonSeparator | .europeanTerminator
  | .otherNeutral | .boundaryNeutral | .nonspacingMark => true
  | _ => false

/-- Whether the classes of a label go together. -/
def directionsFit (label : Label) : Bool :=
  let classes := label.map Unicode.bidiClass
  match classes with
  | [] => true
  | .leftToRight :: _ =>
    classes.all (fun c => c = .leftToRight || isShared c) &&
      (match lastClass classes with
        | some .leftToRight | some .europeanNumber => true
        | _ => false)
  | .rightToLeft :: _ | .arabicLetter :: _ =>
    classes.all (fun c =>
        c = .rightToLeft || c = .arabicLetter || c = .arabicNumber || isShared c) &&
      (match lastClass classes with
        | some .rightToLeft | some .arabicLetter | some .europeanNumber
        | some .arabicNumber => true
        | _ => false) &&
      !(classes.contains .europeanNumber && classes.contains .arabicNumber)
  | _ => false

/-! ## Names -/

/-- A label that stands by itself: none of its characters would have been changed,
it begins with no mark, and its joiners fit. -/
def isSettled (label : Label) : Bool :=
  label.all (fun n => (Unicode.nameMapping? n).isNone) &&
    Unicode.normalize label = label &&
    !(label.head?.map Unicode.isMark).getD false && joinersFit [] label

/-- The label that a label in Punycode stands for. -/
def ofPunycode? (code : List Nat) : Option Label :=
  if isAscii code ∧ code.length ≤ maxPunycode then
    match Punycode.decode? (code.map Char.ofNat) with
    | some label => if !isAscii label && isSettled label then some label else none
    | none => none
  else none

/-- What a label is, after mapping. -/
def readLabel? (label : Label) : Option Label :=
  if label.any isBarred then none
  else if punycodeMark.isPrefixOf label then ofPunycode? (label.drop punycodeMark.length)
  else if isAscii label then some label
  else if isSettled label && label.length ≤ maxLabel then some label
  else none

/-- The labels of a domain name. -/
def labels? (name : List Char) : Option (List Label) := do
  let mapped ← mapAll (name.map Char.toNat)
  let labels ← (Text.split (· = '.'.toNat) (Unicode.normalize mapped)).mapM readLabel?
  if labels.any (fun label => label.any turns) && !labels.all directionsFit then none
  else some labels

end Domain
end Url
end SiteServer
