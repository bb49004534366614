import SiteServer.Files.Path
import SiteServer.Files.View
import SiteServer.Http.Response
import SiteServer.Http.Route

/-!
# Sites

A site serves the files below one directory.  A target is cut at its first question
mark and taken as a path relative to that directory; a path that does not only go down
is refused before any file is looked at.  A file is served only if everyone may read it.
-/

namespace SiteServer
namespace Http

/-- Where files are served from. -/
structure Site where
  root : String
  /-- The page that stands for a bare `/`. -/
  landing : String
  deriving DecidableEq, Repr

namespace Site

/-- A site with the usual landing page. -/
def ofRoot (root : String) : Site := ⟨root, usualLanding⟩

/-- The bit that lets everyone read. -/
def readableByAll : Nat := 0o004

/-- The part of a target before its first question mark. -/
def withoutQuery (target : List Char) : List Char := target.takeWhile (· != '?')

/-- The path a target stands for, relative to the root. -/
def relative (target : List Char) : List Char := (withoutQuery target).dropWhile (· = '/')

/-- Whether a path leads up or away somewhere. -/
def climbs (path : List Char) : Bool := (Files.Path.components path).any fun c => !c.isDownward

/-- The path of the file a target names, unless the target goes up. -/
def path? (s : Site) (target : String) : Option String :=
  let path := relative target.toList
  if climbs path then none else some (String.ofList (Files.Path.join s.root.toList path))

/-- The contents of the file a target names, or why it is not served. -/
def openFile (s : Site) (files : Files.View) (target : String) : Except Status Bytes :=
  match s.path? target with
  | none => .error .badRequest
  | some path =>
    match files.stat path with
    | .error _ => .error .notFound
    | .ok stat =>
      if stat.mode &&& readableByAll = 0 then .error .forbidden
      else if stat.isDirectory then .error .badRequest
      else
        match files.mapped path with
        | .error _ => .error .internalError
        | .ok contents => .ok contents

/-- The answer to a request, and the store of users after it. -/
def respond {σ : Type} [Store.UserStore σ] (s : Site) (files : Files.View) (r : Request)
    (users : σ) : Response × σ :=
  let (target, users) := Route.route r users
  match s.openFile files target with
  | .ok contents => (.file contents r.keepAlive, users)
  | .error status => (.error status r.keepAlive, users)

end Site
end Http
end SiteServer
