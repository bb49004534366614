import SiteServer.Config.Settings
import SiteServer.Files.Fault
import SiteServer.Report
import SiteServer.Text.Quoted
import SiteServer.Text.Utf8

/-!
# Settings from the environment

Settings are read from a file if a variable names one, and some of them may then be set
by variables of their own.  A variable whose value is not text is as good as missing,
except for the name of the file, which need not be text.
-/

namespace SiteServer
namespace Config

/-- Variables with their values. -/
abbrev Variables := List (String × Bytes)

namespace Variables

/-- The value of a variable, if it is text. -/
def text? (vs : Variables) (name : String) : Option String := (vs.lookup name).bind Utf8.decode

/-- The variables that are looked at. -/
def names : List String :=
  ["WEBSERV_CONFIG", "WEBSERV_LISTEN", "WEBSERV_DOC_ROOT", "WEBSERV_STORE_PATH",
    "WEBSERV_STORE_POOL_SIZE", "WEBSERV_WORKERS"]

/-- The name of the file with settings. -/
def configPath? (vs : Variables) : Option Bytes := vs.lookup "WEBSERV_CONFIG"

end Variables

/-- Why there are no settings. -/
inductive Fault where
  | reading (path : Bytes) (f : Files.Fault)
  /-- The file holds no settings. -/
  | malformed (path : Bytes)
  | badNumber (name value : String) (f : Text.NumberFault)
  deriving DecidableEq, Repr

namespace Fault

/-- A path as it is shown. -/
def shown (path : Bytes) : String := String.ofList (Utf8.decodeLossy path)

/-- What is said about a fault. -/
def report : Fault → Report
  | reading path f => ⟨"reading config file " ++ shown path, [f.message]⟩
  | malformed path => ⟨"parsing config file " ++ shown path, ["malformed settings"]⟩
  | badNumber name value f => ⟨name ++ "=" ++ Text.Quoted.quote value, [f.message]⟩

end Fault

/-- Reads settings from a file.  `read` reads a file as text. -/
def ofFile (read : Bytes → Except Files.Fault String) (path : Bytes) : Except Fault Config :=
  match read path with
  | .error f => .error (.reading path f)
  | .ok text =>
    match ofText? text.toList with
    | some c => .ok c
    | none => .error (.malformed path)

/-- The number in a variable, `default` if it is not set. -/
def numberVariable (vs : Variables) (name : String) (default : Nat) : Except Fault Nat :=
  match vs.text? name with
  | none => .ok default
  | some value =>
    match Text.readUnsigned Text.max64 value.toList with
    | .ok n => .ok n
    | .error f => .error (.badNumber name value f)

/-- Sets what variables set. -/
def override (vs : Variables) (c : Config) : Except Fault Config := do
  let poolSize ← numberVariable vs "WEBSERV_STORE_POOL_SIZE" c.store.poolSize
  let workers ← numberVariable vs "WEBSERV_WORKERS" c.pool.workers
  return { c with
    server := { c.server with
      address := (vs.text? "WEBSERV_LISTEN").getD c.server.address }
    site := { c.site with root := (vs.text? "WEBSERV_DOC_ROOT").getD c.site.root }
    store := { path := (vs.text? "WEBSERV_STORE_PATH").getD c.store.path, poolSize }
    pool := { c.pool with workers } }

/-- The settings for an environment. -/
def load (vs : Variables) (read : Bytes → Except Files.Fault String) : Except Fault Config :=
  match vs.configPath? with
  | none => override vs {}
  | some path =>
    match ofFile read path with
    | .error f => .error f
    | .ok c => override vs c

end Config
end SiteServer
