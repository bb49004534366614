import SiteServer.Http.Route
import SiteServer.Store.Shared

/-!
# Requests to a site that is shared

Many requests are routed at once, each through the handle it was given, and all of them
see one store.  A request comes to the store once at most, under its lock, so that a
run is one visit after another.  Between two requests the store may also be used by
others, and its storage may begin to refuse what is written to it, and cease to.
-/

namespace SiteServer
namespace Http

/-- Something that comes to the store of a site. -/
inductive Visit where
  /-- A request, with a handle on the storage. -/
  | request (b : Store.Backend) (r : Request)
  | other (u : Store.Use)
  deriving DecidableEq, Repr

namespace Visit

/-- The document for a request that is routed through a handle, and the store after it. -/
def route (sh : Store.Shared) (b : Store.Backend) (r : Request) : String × Store.Shared :=
  let (target, session) := Route.route r (sh.session b)
  (target, ⟨session.credentials, session.storage⟩)

/-- The store after a visit. -/
def apply (sh : Store.Shared) : Visit → Store.Shared
  | request b r => (route sh b r).2
  | other u => (sh.act u).2

/-- The store after some visits. -/
def applyAll (sh : Store.Shared) (visits : List Visit) : Store.Shared := visits.foldl apply sh

end Visit
end Http
end SiteServer
