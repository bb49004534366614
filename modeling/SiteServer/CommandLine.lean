import SiteServer.Config.Load
import SiteServer.Server.Listen
import SiteServer.Store.Session

/-!
# The command line

The program takes one argument, the port.  It loads its settings, checks the port and
the settings, opens the credential file, making it if it is missing, reads the users
from it, and then listens.  The first of these steps to fail is the one reported.
-/

namespace SiteServer
namespace CommandLine

/-- The name of the program. -/
def programName : String := "webserv"

/-- Why the program does not start. -/
inductive Fault where
  /-- There is not exactly one argument. -/
  | usage
  | settings (f : Config.Fault)
  | port (text : String) (f : Text.NumberFault)
  | zeroSetting (name : String)
  | opening (path : String) (f : Store.Fault)
  | loading (f : Store.Fault)
  | listening (f : Server.ListenFault)
  deriving DecidableEq, Repr

/-- What is said about a fault of the store. -/
def storeReport (f : Store.Fault) : Report := ⟨f.message, f.causes⟩

namespace Fault

/-- What is said about a fault, other than a wrong number of arguments. -/
def report : Fault → Report
  | usage => ⟨"usage: " ++ programName ++ " <port>", []⟩
  | settings f => f.report
  | port text f => ⟨"invalid port " ++ Text.Quoted.quote text, [f.message]⟩
  | zeroSetting name => ⟨Config.zeroMessage name, []⟩
  | opening path f => ⟨"opening credential store " ++ path, (storeReport f).chain⟩
  | loading f => storeReport f
  | listening f => f.report

/-- What is written about a fault. -/
def text : Fault → String
  | usage => usage.report.what ++ "\n"
  | f => f.report.text

end Fault

/-- What a server starts with. -/
structure Launch where
  config : Config
  address : Net.SocketAddress
  credentials : Store.Credentials
  handles : List Store.Backend

/-- The settings for some arguments and an environment. -/
def settings (args : List String) (vs : Config.Variables)
    (read : Bytes → Except Files.Fault String) : Except Fault Config :=
  match args with
  | [text] =>
    match Config.load vs read with
    | .error f => .error (.settings f)
    | .ok c =>
      match Text.readUnsigned Text.max16 text.toList with
      | .error f => .error (.port text f)
      | .ok port =>
        let c := { c with server := { c.server with port } }
        match c.zeroSetting? with
        | some name => .error (.zeroSetting name)
        | none => .ok c
  | _ => .error .usage

/-- Opens the credential file and reads the users in it. -/
def openStore (c : Config) (s : Store.Storage) :
    Except Fault (Store.Credentials × List Store.Backend) × Store.Storage :=
  match Store.Backend.openFiles s (Utf8.encode c.store.path) c.store.poolSize with
  | .error f => (.error (.opening c.store.path f), s)
  | .ok (handles, s) =>
    match handles with
    | [] => (.ok ({}, []), s)
    | b :: _ =>
      match Store.Credentials.ofBackend b s with
      | .error f => (.error (.loading f), s)
      | .ok credentials => (.ok (credentials, handles), s)

/-- Starts a server with settings on a host that has the addresses `own`. -/
def launch (own : Net.Ip → Bool) (c : Config) (s : Store.Storage) :
    Except Fault Launch × Store.Storage :=
  match openStore c s with
  | (.error f, s) => (.error f, s)
  | (.ok (credentials, handles), s) =>
    match Server.listen own c handles.length with
    | .error f => (.error (.listening f), s)
    | .ok address => (.ok { config := c, address, credentials, handles }, s)

/-- Starts the program.  The storage may change even if it does not start. -/
def start (own : Net.Ip → Bool) (args : List String) (vs : Config.Variables)
    (s : Store.Storage) : Except Fault Launch × Store.Storage :=
  match settings args vs s.files.readText with
  | .error f => (.error f, s)
  | .ok c => launch own c s

end CommandLine
end SiteServer
