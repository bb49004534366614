import SiteServer.Config.Basic
import SiteServer.Net.SocketAddress
import SiteServer.Report

/-!
# Beginning to listen

Before a server listens its settings are checked, then that there is a handle for the
store, and then that its address can be read and belongs to this host.
-/

namespace SiteServer
namespace Server

/-- Why a server does not listen. -/
inductive ListenFault where
  | zeroSetting (name : String)
  | noHandles
  | badAddress (text : String)
  /-- The address is none of this host. -/
  | notOwn (address : Net.SocketAddress)
  deriving DecidableEq, Repr

namespace ListenFault

/-- What is said about a fault. -/
def report : ListenFault → Report
  | zeroSetting name => ⟨Config.zeroMessage name, []⟩
  | noHandles => ⟨"credential backend pool is empty", []⟩
  | badAddress text => ⟨"invalid listen address " ++ text, ["invalid socket address syntax"]⟩
  | notOwn address => ⟨"binding " ++ address.text,
      ["Cannot assign requested address (os error 99)"]⟩

end ListenFault

/-- The address a server listens at, which needs `handles` handles on the store.  `own`
tells which addresses belong to this host. -/
def listen (own : Net.Ip → Bool) (c : Config) (handles : Nat) :
    Except ListenFault Net.SocketAddress :=
  match c.zeroSetting? with
  | some name => .error (.zeroSetting name)
  | none =>
    if handles = 0 then .error .noHandles
    else
      match Net.SocketAddress.ofText? c.listenAddress.toList with
      | none => .error (.badAddress c.listenAddress)
      | some a => if own a.ip then .ok a else .error (.notOwn a)

end Server
end SiteServer
