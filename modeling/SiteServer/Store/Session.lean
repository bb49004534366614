import SiteServer.Store.Credentials

/-!
# Sessions

What one request may do with a store of users: look a user up, and add one.  A session
does both for the users of the site, and adds one through the handle it was given.
-/

namespace SiteServer
namespace Store

/-- A store of users as a request sees it. -/
class UserStore (σ : Type) where
  /-- The password of a user. -/
  password? : σ → String → Option String
  /-- Adds a user, if there is none of that name. -/
  insert : σ → String → String → Except Fault Unit × σ

/-- The users of the site as one request sees them. -/
structure Session where
  credentials : Credentials
  backend : Backend
  storage : Storage
  deriving DecidableEq, Repr

namespace Session

/-- The password of a user. -/
def password? (s : Session) (user : String) : Option String := s.credentials.password? user

/-- Adds a user.  Nothing changes unless it succeeds. -/
def insert (s : Session) (user password : String) : Except Fault Unit × Session :=
  match s.credentials.enrol s.backend s.storage user password with
  | .error f => (.error f, s)
  | .ok (credentials, storage) => (.ok (), { s with credentials, storage })

end Session

instance : UserStore Session := ⟨Session.password?, Session.insert⟩

end Store
end SiteServer
