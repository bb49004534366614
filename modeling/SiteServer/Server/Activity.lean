import SiteServer.Server.History

/-!
# Activity

A connection is given time again whenever there is activity on it: it was accepted, something
has been read from it, something was written to it before the stream would block, or a
response was finished and the connection stays open.  Of everything that is done to a
connection these are the calls that count, and from the calls along a run one can tell when
each connection was last active.
-/

namespace SiteServer

/-- Whether a call counts as activity.  A connection is reset when a response was finished and
it stays open. -/
def Http.Call.isActivity (c : Http.Call) : Bool :=
  match c.kind with
  | .create | .reset => true
  | .read =>
    match c.before.read.1 with
    | .ok (.data n) => 0 < n
    | _ => false
  | .write =>
    match c.before.write.1 with
    | .blocked n => 0 < n
    | _ => false
  | .process _ => false

namespace Server
namespace EventLoop

/-- Whether some calls are activity on a connection. -/
def activeIn (id : Nat) (calls : List Http.Call) : Bool :=
  (callsOn id calls).any Http.Call.isActivity

/-- Whether there is activity on a connection in an event. -/
def isActive (r : EventLoop) (e : Event) (id : Nat) : Bool := activeIn id (r.calls e)

/-- The readings of the clock at all activity on a connection along a run. -/
def activity (r : EventLoop) (id : Nat) : List Event → List Nat
  | [] => []
  | e :: events =>
    match r.step e with
    | none => []
    | some r' => (if r.isActive e id then e.time?.toList else []) ++ r'.activity id events

end EventLoop
end Server
end SiteServer
