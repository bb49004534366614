/-!
# Reports of failures

What is said when something fails that cannot be helped: what was being done, and then
the causes, the nearest first.  Causes are numbered if there are several.
-/

namespace SiteServer

/-- An account of a failure. -/
structure Report where
  /-- What failed. -/
  what : String
  causes : List String := []
  deriving DecidableEq, Repr

namespace Report

/-- All that is said, the outermost first. -/
def chain (r : Report) : List String := r.what :: r.causes

/-- One of several causes, with its number to the right of its column. -/
def numbered (n : Nat) (cause : String) : String :=
  let digits := toString n
  String.ofList (List.replicate (5 - digits.length) ' ') ++ digits ++ ": " ++ cause

/-- The lines for the causes. -/
def causeLines (causes : List String) : List String :=
  match causes with
  | [cause] => ["    " ++ cause]
  | _ => causes.zipIdx.map fun (cause, n) => numbered n cause

/-- The text of a report. -/
def text (r : Report) : String :=
  let lines :=
    if r.causes.isEmpty then ["Error: " ++ r.what]
    else ["Error: " ++ r.what, "", "Caused by:"] ++ causeLines r.causes
  String.join (lines.map (· ++ "\n"))

end Report
end SiteServer
