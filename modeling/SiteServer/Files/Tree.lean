import SiteServer.Files.Fault
import SiteServer.Text.Utf8
import SiteServer.Text.Words

/-!
# File trees

A tree of files, directories, symbolic links and sockets.  Objects are numbered
and never renumbered, so that an open file goes on existing after its name has
been removed.  Object 0 is the top of the tree and object 1 the directory that
relative names start from.

A name is looked up component by component.  Empty components and `.` stay where
they are, which must be in a directory; `..` goes to the parent; a symbolic link is
replaced by its target, at most `maxLinks` times.
-/

namespace SiteServer
namespace Files

/-- Something with a place in the tree. -/
inductive Object where
  | file (mode : Nat) (data : Bytes)
  | directory (mode parent : Nat) (entries : List (Bytes × Nat))
  | link (target : Bytes)
  | socket (mode : Nat)
  deriving DecidableEq, Repr

/-- What can be asked of an object without opening it. -/
structure Stat where
  mode : Nat
  isDirectory : Bool
  deriving DecidableEq, Repr

/-- What a name says about an object: its permission bits and whether it is a
directory. -/
def Object.stat : Object → Stat
  | file mode _ => ⟨mode, false⟩
  | directory mode _ _ => ⟨mode, true⟩
  | link _ => ⟨0o777, false⟩
  | socket mode => ⟨mode, false⟩

/-- Numbered objects. -/
structure Tree where
  objects : List Object
  deriving DecidableEq, Repr

namespace Tree

/-- The number of the top directory. -/
def top : Nat := 0

/-- The number of the directory relative names start from. -/
def base : Nat := 1

/-- How many links a look-up follows. -/
def maxLinks : Nat := 40

/-- The longest name of one component. -/
def maxName : Nat := 255

/-- The longest path. -/
def maxPath : Nat := 4095

/-- A tree with an empty directory to start from. -/
def empty : Tree := ⟨[.directory 0o755 0 [], .directory 0o755 0 []]⟩

/-- The slash that separates components. -/
def isSlash (b : UInt8) : Bool := b = 0x2F

/-- The components of a path. -/
def components (path : Bytes) : List Bytes := Text.split isSlash path

/-- Where the look-up of a path begins. -/
def start (path : Bytes) : Nat := if path.head? = some 0x2F then top else base

/-- A component that stays where it is. -/
def isHere (name : Bytes) : Bool := name = [] || name = [0x2E]

/-- The component that goes to the parent. -/
def isParent (name : Bytes) : Bool := name = [0x2E, 0x2E]

/-- Follows the components from the directory `here`. -/
def walk (t : Tree) (links here : Nat) (parts : List Bytes) : Except Fault Nat :=
  match parts with
  | [] => .ok here
  | name :: rest =>
    match t.objects[here]? with
    | some (.directory _ parent entries) =>
      if isHere name then walk t links here rest
      else if isParent name then walk t links parent rest
      else if maxName < name.length then .error .nameTooLong
      else
        match entries.lookup name with
        | none => .error .notFound
        | some i =>
          match t.objects[i]? with
          | some (.link target) =>
            match links with
            | 0 => .error .linkLoop
            | links + 1 =>
              walk t links (if target.head? = some 0x2F then top else here)
                (components target ++ rest)
          | _ => walk t links i rest
    | some _ => .error .notADirectory
    | none => .error .notFound
termination_by (links, parts.length)

/-- Whether a path can be looked up at all. -/
def checkPath (path : Bytes) : Except Fault Unit :=
  if path.contains 0 then .error .nulInName
  else if path = [] then .error .notFound
  else if maxPath < path.length then .error .nameTooLong
  else .ok ()

/-- The object a path names, links followed. -/
def resolve (t : Tree) (path : Bytes) : Except Fault Nat := do
  checkPath path
  t.walk maxLinks (start path) (components path)

/-- What a path's object is like. -/
def stat (t : Tree) (path : Bytes) : Except Fault Stat := do
  let i ← t.resolve path
  match t.objects[i]? with
  | some o => .ok o.stat
  | none => .error .notFound

/-- The contents of the file with this number. -/
def contentsAt (t : Tree) (i : Nat) : Except Fault Bytes :=
  match t.objects[i]? with
  | some (.file _ data) => .ok data
  | some (.directory ..) => .error .isADirectory
  | some (.socket _) => .error .noSuchEndpoint
  | some (.link _) => .error .linkLoop
  | none => .error .notFound

/-- Opens and reads a file. -/
def read (t : Tree) (path : Bytes) : Except Fault Bytes := do
  t.contentsAt (← t.resolve path)

/-- Opens a file and maps its contents.  A directory can be opened but not
mapped. -/
def mapped (t : Tree) (path : Bytes) : Except Fault Bytes :=
  match t.read path with
  | .error .isADirectory => .error .notMappable
  | r => r

/-- Reads a file that is to be text. -/
def readText (t : Tree) (path : Bytes) : Except Fault String := do
  match Utf8.decode (← t.read path) with
  | some text => .ok text
  | none => .error .notText

/-! ## Changing a tree -/

/-- Puts an object in the place of another. -/
def set (t : Tree) (i : Nat) (o : Object) : Tree := ⟨t.objects.set i o⟩

/-- Gives a name in a directory to an object, instead of any other it named. -/
def bindName (t : Tree) (dir : Nat) (name : Bytes) (i : Nat) : Tree :=
  match t.objects[dir]? with
  | some (.directory mode parent entries) =>
    t.set dir (.directory mode parent (entries.filter (fun e => e.1 != name) ++ [(name, i)]))
  | _ => t

/-- Adds an object under a name and says its number. -/
def add (t : Tree) (dir : Nat) (name : Bytes) (o : Object) : Tree × Nat :=
  let i := t.objects.length
  ((⟨t.objects ++ [o]⟩ : Tree).bindName dir name i, i)

/-- Puts an object at a place below the directory `dir`, making the directories
on the way that do not exist. -/
def place (t : Tree) (dir : Nat) (parts : List Bytes) (o : Object) : Tree :=
  match parts with
  | [] => t
  | [name] => (t.add dir name o).1
  | name :: rest =>
    match t.walk maxLinks dir [name] with
    | .ok i => t.place i rest o
    | .error _ =>
      let (t, i) := t.add dir name (.directory 0o755 dir [])
      t.place i rest o

/-- A directory knows its parent. -/
def settle (o : Object) (parent : Nat) : Object :=
  match o with
  | .directory mode _ entries => .directory mode parent entries
  | o => o

/-- Puts an object at a path. -/
def put (t : Tree) (path : Bytes) (o : Object) : Tree :=
  let parts := (components path).filter fun name => !isHere name
  let dir := start path
  let parent :=
    match t.walk maxLinks dir parts.dropLast with
    | .ok i => i
    | .error _ => dir
  t.place dir parts (settle o parent)

/-- Where a file would be opened for appending. -/
inductive Spot where
  /-- An object that exists. -/
  | existing (i : Nat)
  /-- A name that is free in a directory. -/
  | vacant (dir : Nat) (name : Bytes)
  deriving DecidableEq, Repr

/-- Finds the place of the last component, links followed, so that a file can be
made there. -/
def locate (t : Tree) (links here : Nat) (parts : List Bytes) : Except Fault Spot :=
  match parts with
  | [] => .error .isADirectory
  | name :: rest =>
    match t.objects[here]? with
    | some (.directory _ parent entries) =>
      if isHere name then locate t links here rest
      else if isParent name then locate t links parent rest
      else if maxName < name.length then .error .nameTooLong
      else
        match entries.lookup name with
        | none => if rest = [] then .ok (.vacant here name) else .error .notFound
        | some i =>
          match t.objects[i]? with
          | some (.link target) =>
            match links with
            | 0 => .error .linkLoop
            | links + 1 =>
              locate t links (if target.head? = some 0x2F then top else here)
                (components target ++ rest)
          | _ => if rest = [] then .ok (.existing i) else locate t links i rest
    | some _ => .error .notADirectory
    | none => .error .notFound
termination_by (links, parts.length)

/-- A path that ends in a slash names a directory, and no file is made under it:
the answer is a fault, that of the way to it if there is one. -/
def refuseDirectory (t : Tree) (path : Bytes) (parts : List Bytes) : Fault :=
  let named := (parts.reverse.dropWhile (· = [])).reverse
  match t.walk maxLinks (start path) named.dropLast with
  | .error f => f
  | .ok dir =>
    match t.objects[dir]? with
    | some (.directory ..) => .isADirectory
    | _ => .notADirectory

/-- Opens a file for appending, making an empty one if there is none.  The answer
is its number. -/
def openAppend (t : Tree) (path : Bytes) : Except Fault (Nat × Tree) := do
  checkPath path
  let parts := components path
  if parts.getLast? = some [] then .error (t.refuseDirectory path parts)
  else
    match ← t.locate maxLinks (start path) parts with
    | .vacant dir name =>
      let (t, i) := t.add dir name (.file 0o644 [])
      .ok (i, t)
    | .existing i =>
      match t.objects[i]? with
      | some (.file ..) => .ok (i, t)
      | some (.directory ..) => .error .isADirectory
      | some (.socket _) => .error .noSuchEndpoint
      | _ => .error .notFound

/-- Adds to the end of an open file. -/
def append (t : Tree) (i : Nat) (more : Bytes) : Tree :=
  match t.objects[i]? with
  | some (.file mode data) => t.set i (.file mode (data ++ more))
  | _ => t

/-- Takes away a name in the starting directory.  What it named stays. -/
def unlink (t : Tree) (name : Bytes) : Tree :=
  match t.objects[base]? with
  | some (.directory mode parent entries) =>
    t.set base (.directory mode parent (entries.filter fun e => e.1 != name))
  | _ => t

/-- The names in the starting directory, in ascending order. -/
def names (t : Tree) : List Bytes :=
  match t.objects[base]? with
  | some (.directory _ _ entries) => (entries.map (·.1)).mergeSort fun a b => a ≤ b
  | _ => []

end Tree
end Files
end SiteServer
