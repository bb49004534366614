import SiteServer.Text.Words
import SiteServer.Url.Basic

/-!
# Request targets

A target names a document.  It is either a path, which begins with a slash and is
kept as it was sent, or a web address, of which the path and the query are kept.
-/

namespace SiteServer
namespace Http
namespace Target

/-- Whether the target is written as a web address. -/
def isAbsolute (target : List Char) : Bool :=
  (Text.afterIgnoreCase? "http://".toList target).isSome ||
    (Text.afterIgnoreCase? "https://".toList target).isSome

/-- The path and query a target names, if it is a target at all.  `address`
reads web addresses. -/
def originForm? (address : List Char → Option Url.Parts) (target : List Char) :
    Option (List Char) :=
  if isAbsolute target then
    (address target).map fun parts =>
      match parts.query with
      | some q => parts.path ++ '?' :: q
      | none => parts.path
  else if target.head? = some '/' then some target
  else none

end Target
end Http
end SiteServer
