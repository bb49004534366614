import SiteServer.Files.Fault
import SiteServer.Text.Quoted

/-!
# Faults of the credential store

Why users could not be read or a user not be added.
-/

namespace SiteServer
namespace Store

/-- Why an operation on the store failed. -/
inductive Fault where
  | files (f : Files.Fault)
  | duplicate (name : String)
  | invalidField (value : String)
  /-- The storage refused, for the reason given. -/
  | refused (reason : String)
  deriving DecidableEq, Repr

namespace Fault

/-- The wording of a fault. -/
def message : Fault → String
  | files f => "store I/O error: " ++ f.message
  | duplicate name => "user " ++ Text.Quoted.quote name ++ " already exists"
  | invalidField value => "invalid credential field " ++ Text.Quoted.quote value
  | refused reason => "backend error: " ++ reason

/-- The wordings of what lies behind a fault, nearest first. -/
def causes : Fault → List String
  | files f => [f.message]
  | _ => []

end Fault
end Store
end SiteServer
