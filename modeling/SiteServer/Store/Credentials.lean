import SiteServer.Store.Backend

/-!
# Known users

The users and passwords that logins are checked against, loaded once and kept in
step with the storage: a new user is known only after the storage has taken the
row.

Main statements: `password?_put` and `password?_put_ne`, what a new user changes.
-/

namespace SiteServer
namespace Store

/-- The known users, each name once. -/
structure Credentials where
  users : List Row := []
  deriving DecidableEq, Repr

namespace Credentials

/-- The password of a user. -/
def password? (c : Credentials) (user : String) : Option String := c.users.lookup user

/-- How many users are known. -/
def size (c : Credentials) : Nat := c.users.length

/-- Whether the user has this password. -/
def hasPassword (c : Credentials) (user password : String) : Bool :=
  c.password? user = some password

/-- Makes a user known, instead of any other of that name. -/
def put (c : Credentials) (user password : String) : Credentials :=
  ⟨c.users.filter (fun row => row.1 != user) ++ [(user, password)]⟩

/-- The users of some rows.  The last row of a name counts. -/
def ofRows (rows : List Row) : Credentials := rows.foldl (fun c row => c.put row.1 row.2) {}

/-- Loads the users of some storage. -/
def ofBackend (b : Backend) (s : Storage) : Except Fault Credentials := (b.rows s).map ofRows

/-- Adds a user to the storage and then to the known users. -/
def enrol (c : Credentials) (b : Backend) (s : Storage) (user password : String) :
    Except Fault (Credentials × Storage) :=
  if (c.password? user).isSome then .error (.duplicate user)
  else
    match b.addRow s user password with
    | .error f => .error f
    | .ok s => .ok (c.put user password, s)

/-! ## What a new user changes -/

theorem lookup_filter_ne (rows : List Row) {user name : String} (h : name ≠ user) :
    (rows.filter fun row => row.1 != user).lookup name = rows.lookup name := by
  induction rows with
  | nil => rfl
  | cons row rows ih =>
    obtain ⟨n, p⟩ := row
    by_cases hn : n = user
    · subst hn
      have : (name == n) = false := by simpa using h
      simp [List.lookup_cons, ih, this]
    · simp [List.lookup_cons, hn, ih]

theorem lookup_filter_self (rows : List Row) (user : String) :
    (rows.filter fun row => row.1 != user).lookup user = none := by
  induction rows with
  | nil => rfl
  | cons row rows ih =>
    obtain ⟨n, p⟩ := row
    by_cases hn : n = user
    · simp [hn, ih]
    · have : (user == n) = false := by simpa using fun h => hn h.symm
      simp [hn, List.lookup_cons, this, ih]

theorem lookup_append_single (rows : List Row) (user password name : String) :
    (rows ++ [(user, password)]).lookup name =
      (rows.lookup name).or (if name = user then some password else none) := by
  induction rows with
  | nil =>
    by_cases h : name = user
    · simp [h]
    · simp [List.lookup_cons, beq_eq_false_iff_ne.2 h, h]
  | cons row rows ih =>
    obtain ⟨n, p⟩ := row
    by_cases h : name = n
    · simp [h]
    · simp [List.lookup_cons, beq_eq_false_iff_ne.2 h, ih]

@[simp] theorem password?_put (c : Credentials) (user password : String) :
    (c.put user password).password? user = some password := by
  simp [put, password?, lookup_append_single, lookup_filter_self]

theorem password?_put_ne (c : Credentials) {user name : String} (password : String)
    (h : name ≠ user) : (c.put user password).password? name = c.password? name := by
  simp [put, password?, lookup_append_single, lookup_filter_ne _ h, h]

end Credentials
end Store
end SiteServer
