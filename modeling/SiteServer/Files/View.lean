import SiteServer.Files.Tree

/-!
# What a site sees of the file system

A site asks two things of a path: what the object there is like, and what is in
it.  The two answers are all that serving depends on.
-/

namespace SiteServer
namespace Files

/-- Two questions about paths. -/
structure View where
  stat : String → Except Fault Stat
  mapped : String → Except Fault Bytes

/-- The answers of a file tree. -/
def Tree.view (t : Tree) : View where
  stat path := t.stat (Utf8.encode path)
  mapped path := t.mapped (Utf8.encode path)

end Files
end SiteServer
