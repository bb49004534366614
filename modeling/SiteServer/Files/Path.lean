import SiteServer.Text.Words

/-!
# Paths

A path is text that is cut at its slashes.  Its components are the top of the tree, if it
begins with a slash, and then the names between the slashes.  An empty name and `.` stay where
they are and are not components, but a `.` at the beginning is.

Where a path leads can be told without a look at the tree, as long as links are left out of it:
every name goes down, and `..` takes back the name before it (`location`).
-/

namespace SiteServer
namespace Files
namespace Path

/-- One component of a path. -/
inductive Component where
  /-- The slash at the beginning. -/
  | top
  /-- The `.` at the beginning. -/
  | here
  | parent
  | name (name : List Char)
  deriving DecidableEq, Repr

/-- Whether a component leads neither up nor away. -/
def Component.isDownward : Component → Bool
  | here | name _ => true
  | top | parent => false

/-- What stands between the slashes. -/
def segments (path : List Char) : List (List Char) := Text.split (· = '/') path

/-- Whether a path begins at the top. -/
def isAbsolute (path : List Char) : Bool := path.head? = some '/'

/-- The component that a segment is. -/
def component? : List Char → Option Component
  | [] => none
  | ['.'] => none
  | ['.', '.'] => some .parent
  | name => some (.name name)

/-- What a path begins with, apart from `..` and names. -/
def beginning (path : List Char) : List Component :=
  if isAbsolute path then [.top]
  else if (segments path).head? = some ['.'] then [.here]
  else []

/-- The components of a path. -/
def components (path : List Char) : List Component :=
  beginning path ++ (segments path).filterMap component?

/-- The path that is meant by a path in a directory.  One that begins at the top stays as it
is. -/
def join (dir path : List Char) : List Char :=
  if isAbsolute path then path
  else
    match dir.getLast? with
    | none => path
    | some '/' => dir ++ path
    | some _ => dir ++ '/' :: path

/-! ## Where a path leads -/

/-- A place in the tree: so many levels above the directory that relative paths start from, or
the top, and names from there on. -/
structure Location where
  isTop : Bool := false
  up : Nat := 0
  names : List (List Char) := []
  deriving DecidableEq, Repr

namespace Location

/-- Goes one component on. -/
def move (l : Location) : Component → Location
  | .top => ⟨true, 0, []⟩
  | .here => l
  | .parent =>
    if l.names ≠ [] then { l with names := l.names.dropLast }
    else if l.isTop then l
    else { l with up := l.up + 1 }
  | .name name => { l with names := l.names ++ [name] }

/-- Whether a place is this one or below it. -/
def Contains (l m : Location) : Prop := m.isTop = l.isTop ∧ m.up = l.up ∧ l.names <+: m.names

instance (l m : Location) : Decidable (l.Contains m) := inferInstanceAs (Decidable (_ ∧ _ ∧ _))

end Location

/-- Where a path leads if it meets no links. -/
def location (path : List Char) : Location := (components path).foldl Location.move {}

end Path
end Files
end SiteServer
