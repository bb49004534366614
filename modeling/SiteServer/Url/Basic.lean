/-!
# Web addresses

The parts of a web address that a server needs from an absolute request target:
its path and its query.
-/

namespace SiteServer
namespace Url

/-- Path and query of an address. -/
structure Parts where
  path : List Char
  query : Option (List Char)
  deriving DecidableEq, Repr

end Url
end SiteServer
