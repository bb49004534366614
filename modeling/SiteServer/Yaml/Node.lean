import SiteServer.Yaml.Token

/-!
# Nodes

A document is a tree of scalars, sequences and mappings, in which an alias stands for a
node elsewhere in the document.  An alias that stands inside the node it stands for is
no fault.
-/

namespace SiteServer
namespace Yaml

/-- A node. -/
inductive Node where
  | scalar (tag : Option Bytes) (style : Style) (text : List Char)
  | sequence (items : List Node)
  | mapping (pairs : List (Node × Node))
  /-- The node that has this number in its document. -/
  | alias (number : Nat)
  deriving Inhabited

namespace Node

/-- A scalar that has been left out. -/
def leftOut : Node := .scalar none .plain []

/-- Whether a node is a scalar that has been left out, whatever its tag. -/
def isLeftOut : Node → Bool
  | .scalar _ .plain [] => true
  | _ => false

end Node

/-- The anchors of a document.  An anchor is numbered by how many names there were
before it, so one that takes a name again can share its number with the next new name;
the number then belongs to the later of the two. -/
structure Anchors where
  /-- The number of each name, the latest in front. -/
  numbers : List (List Char × Nat) := []
  /-- How many names there are. -/
  count : Nat := 0
  /-- How many anchors there are. -/
  places : Nat := 0
  /-- The anchor each number belongs to, the latest in front. -/
  owners : List (Nat × Nat) := []
  /-- The node of each anchor. -/
  nodes : List (Nat × Node) := []

namespace Anchors

/-- Adds an anchor, and tells its place among the anchors. -/
def add (a : Anchors) (name : List Char) : Nat × Anchors :=
  (a.places, { a with
    numbers := (name, a.count) :: a.numbers
    count := if (a.numbers.lookup name).isSome then a.count else a.count + 1
    places := a.places + 1
    owners := (a.count, a.places) :: a.owners })

/-- Adds the node of an anchor. -/
def setNode (a : Anchors) (place : Nat) (n : Node) : Anchors :=
  { a with nodes := (place, n) :: a.nodes }

/-- The number that an alias stands for. -/
def number? (a : Anchors) (name : List Char) : Option Nat := a.numbers.lookup name

/-- The node with a number. -/
def node? (a : Anchors) (number : Nat) : Option Node :=
  (a.owners.lookup number).bind fun place => a.nodes.lookup place

end Anchors

/-- A document. -/
structure Document where
  root : Node
  anchors : Anchors := {}

namespace Document

/-- The node itself, or the node it stands for. -/
def resolve (d : Document) : Node → Option Node
  | .alias number => d.anchors.node? number
  | n => some n

end Document
end Yaml
end SiteServer
