import SiteServer.Files.Tree
import SiteServer.Store.Record

/-!
# Where users are kept

Two kinds of storage outlive a request: a table in memory, and a file that
records are appended to.  Any number of handles may refer to the same storage.  A
handle on a file appends to the file it opened, whatever has become of the file's
name since, but reads through the name.
-/

namespace SiteServer
namespace Store

/-- The table in memory.  A table that is failing refuses every new row. -/
structure Table where
  rows : List Row := []
  failing : Bool := false
  deriving DecidableEq, Repr

/-- Everything handles can refer to. -/
structure Storage where
  table : Table := {}
  files : Files.Tree := Files.Tree.empty
  /-- Why nothing can be appended to a file, while nothing can. -/
  unwritable : Option Files.Fault := none
  deriving DecidableEq, Repr

/-- A handle on some storage. -/
inductive Backend where
  | memory
  /-- A file opened for appending: its name and its number. -/
  | file (path : Bytes) (object : Nat)
  deriving DecidableEq, Repr

namespace Backend

/-- Opens a credential file, making it if it is missing. -/
def openFile (s : Storage) (path : Bytes) : Except Fault (Backend × Storage) :=
  match s.files.openAppend path with
  | .error f => .error (.files f)
  | .ok (i, files) => .ok (.file path i, { s with files := files })

/-- Opens so many handles on one credential file, one after another. -/
def openFiles (s : Storage) (path : Bytes) : Nat → Except Fault (List Backend × Storage)
  | 0 => .ok ([], s)
  | n + 1 =>
    match openFile s path with
    | .error f => .error f
    | .ok (b, s) =>
      match openFiles s path n with
      | .error f => .error f
      | .ok (bs, s) => .ok (b :: bs, s)

/-- Every row, in the order in which they were added. -/
def rows (b : Backend) (s : Storage) : Except Fault (List Row) :=
  match b with
  | memory => .ok s.table.rows
  | file path _ =>
    match s.files.read path with
    | .error f => .error (.files f)
    | .ok contents => Record.readAll contents

/-- Adds a row.  Nothing changes unless it succeeds. -/
def addRow (b : Backend) (s : Storage) (user password : String) : Except Fault Storage :=
  match Record.check user with
  | .error f => .error f
  | .ok () =>
    match Record.check password with
    | .error f => .error f
    | .ok () =>
      match b with
      | memory =>
        if s.table.failing then .error (.refused "write rejected")
        else .ok { s with table := { s.table with rows := s.table.rows ++ [(user, password)] } }
      | file _ i =>
        match s.unwritable with
        | some f => .error (.files f)
        | none => .ok { s with files := s.files.append i (Record.encode user password) }

/-- The storage after a row was to be added: with the row, or as it was. -/
def afterAdding (b : Backend) (s : Storage) (user password : String) : Storage :=
  match b.addRow s user password with
  | .ok later => later
  | .error _ => s

end Backend
end Store
end SiteServer
