import SiteServer.Url.Basic
import SiteServer.Url.Host

/-!
# Reading web addresses

An address is a scheme, a colon and any number of slashes, then an authority, a path, a
query and a fragment.  A backslash counts as a slash up to the query.  The authority
has to hold a host and a port that can be read; the user information before them is
passed over.  Dot segments of the path are resolved, and what may not stand in a path
or a query is escaped.

A segment that is a drive letter stays: a segment that goes up does not go above it.
-/

namespace SiteServer
namespace Url

/-- Whether a character separates segments. -/
def isSlash (c : Char) : Bool := c = '/' || c = '\\'

/-- Whether a character ends an authority. -/
def endsAuthority (c : Char) : Bool := isSlash c || c = '?' || c = '#'

/-- A control character or a space. -/
def isPadding (c : Char) : Bool := c ≤ ' '

/-- A character that is passed over wherever it stands. -/
def isDropped (c : Char) : Bool := c = '\t' || c = '\n' || c = '\r'

/-- What follows the scheme of a web address. -/
def afterScheme? (text : List Char) : Option (List Char) :=
  (Text.afterIgnoreCase? "http:".toList text).or (Text.afterIgnoreCase? "https:".toList text)

/-! ## The authority -/

/-- An authority without its user information, which ends at the last `@`. -/
def withoutUser (authority : List Char) : List Char := Text.afterLast (· = '@') authority

/-- Cuts an authority at the colon before the port, which stands outside brackets. -/
def cutPort (inside : Bool) : List Char → List Char × Option (List Char)
  | [] => ([], none)
  | c :: rest =>
    if c = ':' ∧ !inside then ([], some rest)
    else
      let inside := if c = '[' then true else if c = ']' then false else inside
      let (host, port) := cutPort inside rest
      (c :: host, port)

/-- Whether a port can be read.  It may be empty. -/
def isPort (text : List Char) : Bool :=
  text.isEmpty ||
    match Text.readDigits Text.max16 0 text with
    | .ok _ => true
    | .error _ => false

/-- Whether an authority names a host that can be reached. -/
def isAuthority (authority : List Char) : Bool :=
  let (host, port) := cutPort false (withoutUser authority)
  (Host.parse? host).isSome && ((port.map isPort).getD true)

/-! ## The path -/

/-- Whether a segment stays where it is. -/
def isDot (segment : List Char) : Bool :=
  segment = ['.'] || segment.map Char.toLower = ['%', '2', 'e']

/-- The segments that stand for one dot, in a segment of two. -/
def dotForms : List (List Char) := [['.'], ['%', '2', 'e']]

/-- Whether a segment goes up. -/
def isDoubleDot (segment : List Char) : Bool :=
  dotForms.any fun a => dotForms.any fun b => segment.map Char.toLower = a ++ b

/-- Whether a segment is a drive letter. -/
def isDrive : List Char → Bool
  | [c, d] => c.isAlpha && (d = ':' || d = '|')
  | _ => false

/-- Goes up from the segments passed, the last in front. -/
def goUp : List (List Char) → List (List Char)
  | [] => []
  | s :: rest => if isDrive s then s :: rest else rest

/-- Resolves dot segments.  `passed` holds the segments before, the last in front. -/
def resolve (passed : List (List Char)) : List (List Char) → List (List Char)
  | [] => passed.reverse
  | [s] =>
    if isDoubleDot s then ((goUp passed).reverse ++ [[]])
    else if isDot s then passed.reverse ++ [[]]
    else passed.reverse ++ [s]
  | s :: rest =>
    if isDoubleDot s then resolve (goUp passed) rest
    else if isDot s then resolve passed rest
    else resolve (s :: passed) rest

/-- The path that a text stands for, given without its first slash. -/
def normalPath (text : List Char) : List Char :=
  let segments := (Text.split isSlash text).map (Percent.encode Percent.inPath)
  (resolve [] segments).flatMap fun s => '/' :: s

/-! ## Addresses -/

/-- Takes padding off both ends and drops what is passed over. -/
def clean (text : List Char) : List Char := (Text.trim isPadding text).filter fun c => !isDropped c

/-- What follows a character that a text begins with. -/
def after? (c : Char) : List Char → Option (List Char)
  | [] => none
  | d :: rest => if d = c then some rest else none

/-- Reads a web address. -/
def parse? (text : List Char) : Option Parts :=
  match afterScheme? (clean text) with
  | none => none
  | some rest =>
    let rest := rest.dropWhile isSlash
    let authority := rest.takeWhile fun c => !endsAuthority c
    let rest := rest.dropWhile fun c => !endsAuthority c
    if isAuthority authority then
      let path := rest.takeWhile fun c => c ≠ '?' ∧ c ≠ '#'
      let rest := rest.dropWhile fun c => c ≠ '?' ∧ c ≠ '#'
      some {
        path := normalPath (path.drop 1)
        query := (after? '?' rest).map fun q =>
          Percent.encode Percent.inQuery (q.takeWhile (· ≠ '#')) }
    else none

end Url
end SiteServer
