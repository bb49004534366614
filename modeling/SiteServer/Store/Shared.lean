import SiteServer.Store.Session

/-!
# A store that is shared

Many requests use the store at once, each through the handle it was given.  A user is added
under the lock that guards the known users, held from the check to the end, and a look-up
takes the same lock.  So what is done to a store is one use after another, in the order in
which the lock was had.  In between the storage may begin to refuse what is written to it,
and cease to.
-/

namespace SiteServer
namespace Store

/-- What all requests share: the known users and everything behind the handles. -/
structure Shared where
  credentials : Credentials
  storage : Storage
  deriving DecidableEq, Repr

/-- Something done to a store that is shared. -/
inductive Use where
  /-- A user is added through a handle. -/
  | register (b : Backend) (user password : String)
  | lookup (user : String)
  | verify (user password : String)
  /-- The table in memory begins to refuse rows, or ceases to. -/
  | setFailing (failing : Bool)
  /-- Appending to files begins to fail, or ceases to. -/
  | setUnwritable (fault : Option Files.Fault)
  deriving DecidableEq, Repr

/-- What is answered to a use. -/
inductive Outcome where
  | added (result : Except Fault Unit)
  | password (found : Option String)
  | verdict (same : Bool)
  | done
  deriving Repr

/-- Whether a use writes through none but these handles. -/
def Use.Through (handles : List Backend) : Use → Prop
  | .register b _ _ => b ∈ handles
  | _ => True

/-- The row that a use with this outcome added. -/
def addedRow? : Use × Outcome → Option Row
  | (.register _ user password, .added (.ok ())) => some (user, password)
  | _ => none

/-- The rows that were added in the course of a log. -/
def addedRows (log : List (Use × Outcome)) : List Row := log.filterMap addedRow?

namespace Shared

/-- The store as a request with this handle sees it. -/
def session (s : Shared) (b : Backend) : Session := ⟨s.credentials, b, s.storage⟩

/-- The outcome of a use, and the store after it. -/
def act (s : Shared) : Use → Outcome × Shared
  | .register b user password =>
    let (result, session) := (s.session b).insert user password
    (.added result, ⟨session.credentials, session.storage⟩)
  | .lookup user => (.password (s.credentials.password? user), s)
  | .verify user password => (.verdict (s.credentials.hasPassword user password), s)
  | .setFailing failing =>
    (.done, { s with storage := { s.storage with table := { s.storage.table with failing } } })
  | .setUnwritable fault =>
    (.done, { s with storage := { s.storage with unwritable := fault } })

/-- The store after some uses. -/
def after (s : Shared) (uses : List Use) : Shared := uses.foldl (fun s u => (s.act u).2) s

/-- Some uses with their outcomes. -/
def log (s : Shared) : List Use → List (Use × Outcome)
  | [] => []
  | u :: uses => (u, (s.act u).1) :: (s.act u).2.log uses

@[simp] theorem after_nil (s : Shared) : s.after [] = s := rfl

@[simp] theorem after_cons (s : Shared) (u : Use) (uses : List Use) :
    s.after (u :: uses) = (s.act u).2.after uses := rfl

end Shared
end Store
end SiteServer
