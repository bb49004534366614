import SiteServer.CommandLine
import SiteServer.Server.Round
import SiteServer.Url.Parser
import Std.Async.Signal
import Std.Async.TCP
import Std.Async.Timer
import Std.Data.HashMap
import Std.Data.HashSet
import Std.Sync.Channel

/-!
# The program

The program and the machine it runs on.  What the machine says comes in as occurrences,
one at a time; each is put to the event loop as events, the loop then does everything it
can in rounds, and what it has written goes out to the clients.  Everything that is
decided is decided by the event loop.

## Permission to read

The machine does not tell this program who may read a file.  A file that the program can
open counts as one that everyone may read.
-/

namespace SiteServer
namespace Host

open Std.Async (Async)
open Std.Async.TCP (Socket.Client Socket.Server)

/-! ## Files and variables -/

/-- The words of the machine about a failure, with its number for it. -/
def words : IO.Error → String
  | .resourceBusy code details | .unsupportedOperation code details
  | .otherError code details | .permissionDenied _ code details
  | .invalidArgument _ code details | .resourceExhausted _ code details
  | .noSuchThing _ code details =>
    -- some failures are numbered downwards from zero
    let code := if code < 0x80000000 then code else 0 - code
    details.capitalize ++ " (os error " ++ toString code ++ ")"
  | e => toString e

/-- Why the machine refused to open a file. -/
def fileFault : IO.Error → Files.Fault
  | .noFileOrDirectory .. => .notFound
  | .inappropriateType _ 20 _ => .notADirectory
  | .inappropriateType _ 21 _ => .isADirectory
  | e => .other (words e)

/-- The contents of a file. -/
def contents (path : String) : IO (Except Files.Fault Bytes) := do
  try
    let data ← IO.FS.readBinFile path
    return .ok data.toList
  catch e => return .error (fileFault e)

/-- The text of a file. -/
def readText (path : Bytes) : IO (Except Files.Fault String) := do
  match Utf8.decode path with
  | none => return .error .notFound
  | some path =>
    match ← contents path with
    | .error f => return .error f
    | .ok data => return ((Utf8.decode data).map .ok).getD (.error .notText)

/-- What the machine says about one path, and nothing about others. -/
def view (path : String) : IO Files.View := do
  try
    let isDirectory := (← (← IO.FS.realPath path).metadata).type == .dir
    let data ← if isDirectory then pure (.error .notMappable) else contents path
    let mode := if isDirectory || data.isOk then 0o444 else 0
    return {
      stat := fun p => if p = path then .ok ⟨mode, isDirectory⟩ else .error .notFound
      mapped := fun p => if p = path then data else .error .notFound }
  catch e => return ⟨fun _ => .error (fileFault e), fun _ => .error (fileFault e)⟩

/-- The variables that are set. -/
def environment : IO Config.Variables :=
  Config.Variables.names.filterMapM fun name => do
    return (← IO.getEnv name).map fun value => (name, Utf8.encode value)

/-! ## Addresses -/

/-- An address as the machine takes it. -/
def toMachine? (a : Net.SocketAddress) : Option Std.Net.SocketAddress :=
  match a.ip with
  | .v4 [a1, a2, a3, a4] =>
    some (.v4 ⟨.ofParts a1.toUInt8 a2.toUInt8 a3.toUInt8 a4.toUInt8, a.port.toUInt16⟩)
  | .v6 [a1, a2, a3, a4, a5, a6, a7, a8] =>
    some (.v6 ⟨.ofParts a1.toUInt16 a2.toUInt16 a3.toUInt16 a4.toUInt16 a5.toUInt16
      a6.toUInt16 a7.toUInt16 a8.toUInt16, a.port.toUInt16⟩)
  | _ => none

/-- An address that the machine has given. -/
def ofMachine : Std.Net.SocketAddress → Net.SocketAddress
  | .v4 a => { ip := .v4 (a.addr.octets.toList.map (·.toNat)), port := a.port.toNat }
  | .v6 a => { ip := .v6 (a.addr.segments.toList.map (·.toNat)), port := a.port.toNat }

/-! ## Occurrences -/

/-- What the machine lets the program know. -/
inductive Occurrence where
  /-- The program is to stop. -/
  | stop
  /-- An idle unit has passed. -/
  | tick
  /-- A client has connected. -/
  | client (socket : Socket.Client) (peer : Net.SocketAddress)
  /-- Octets have arrived for a connection, none at its end. -/
  | arrived (id : Nat) (bytes : Bytes)
  /-- The socket of a connection has failed. -/
  | failed (id : Nat)
  deriving Inhabited

/-- Where occurrences wait for their turn. -/
abbrev News := Std.Channel Occurrence

/-- Lets the program know. -/
def tell (news : News) (o : Occurrence) : BaseIO Unit := do
  let _ ← news.send o

/-- Starts something that goes on by itself. -/
def background (x : Async Unit) : IO Unit := do
  let _ ← Async.toIO x

/-- Waits for clients.  After a failure it waits a little before it tries again. -/
def awaitClients (server : Socket.Server) (news : News) : Async Unit := do
  repeat
    try
      let socket ← server.accept
      let peer ← socket.getPeerName
      tell news (.client socket (ofMachine peer))
    catch _ => Std.Async.sleep 50

/-- Counts idle units. -/
def awaitTicks (seconds : Nat) (news : News) : Async Unit := do
  repeat
    Std.Async.sleep (.ofNat (1000 * seconds))
    tell news .tick

/-- Waits for the next octets of a connection. -/
def awaitData (id : Nat) (socket : Socket.Client) (news : News) : Async Unit := do
  try
    let data ← socket.recv? 65536
    tell news (.arrived id ((data.map (·.toList)).getD []))
  catch _ => tell news (.failed id)

/-- Waits for a signal to stop. -/
def awaitSignal (signal : Std.Async.Signal) (news : News) : IO Unit := do
  let waiter ← Std.Async.Signal.Waiter.mk signal false
  let task ← waiter.wait
  let _ ← task.mapIO fun _ => tell news .stop

/-! ## Serving -/

/-- A server with its sockets. -/
structure Running where
  loop : Server.EventLoop
  /-- The sockets of open connections, by their numbers. -/
  sockets : Std.HashMap Nat Socket.Client := {}
  /-- The connections whose next octets are being waited for. -/
  awaited : Std.HashSet Nat := {}
  /-- The credential file. -/
  store : IO.FS.Handle
  /-- How many octets the credential file has. -/
  stored : Nat

namespace Running

/-- Sends octets, and closes the sending half behind them if they are the last. -/
def send (socket : Socket.Client) (bytes : Bytes) (last : Bool) : IO Unit := do
  unless bytes.isEmpty do background (socket.send ⟨bytes.toArray⟩)
  if last then background socket.shutdown

/-- Puts an occurrence to the event loop. -/
def note (s : Running) (now : Nat) : Occurrence → IO Running
  | .stop => return s
  | .tick => return { s with loop := s.loop.attempt (.tick now) }
  | .client socket peer => do
    if s.loop.isFull then
      send socket Server.busyText true
      return s
    else
      let id := s.loop.connections.length
      return { s with
        loop := s.loop.attempt (.accept now peer {})
        sockets := s.sockets.insert id socket }
  | .arrived id bytes =>
    return { s with
      loop := s.loop.attempt (.arrive id [.data bytes])
      awaited := s.awaited.erase id }
  | .failed id =>
    return { s with loop := s.loop.hangUp now id, awaited := s.awaited.erase id }

/-- Lets a worker answer a request, with the file that it needs. -/
def work (s : Running) (worker : Nat) : IO Running := do
  let r := s.loop.takeJob worker
  let files ← view ((r.wanted? worker).getD "")
  let r := { r with service := { r.service with files } }.doJob worker
  if r.credentials.size = s.loop.credentials.size then return { s with loop := r }
  else
    match r.storage.files.read (Utf8.encode r.config.store.path) with
    | .error _ => return { s with loop := r }
    | .ok data =>
      s.store.write ⟨(data.drop s.stored).toArray⟩
      s.store.flush
      return { s with loop := r, stored := data.length }

/-- Lets the server do everything it can. -/
def settle (s : Running) (now : Nat) : IO Running := do
  let mut s := s
  while s.loop.isBusy true do
    s := { s with loop := s.loop.serveSockets now }
    for worker in s.loop.workerNumbers do
      s ← s.work worker
    s := { s with loop := s.loop.collect }
  return s

/-- Sends what has been written to a connection, and goes on waiting for its octets or
lets go of it. -/
def flush (s : Running) (news : News) (id : Nat) (socket : Socket.Client) : IO Running := do
  match s.loop.connections[id]? with
  | none => return s
  | some c =>
    let isClosed := s.loop.closed.any fun e => e.1 = id
    send socket c.stream.written isClosed
    let loop := s.loop.updateStream id fun stream => { stream with written := [] }
    if isClosed then
      if s.awaited.contains id then background (socket.recvSelector 1).unregisterFn
      return { s with loop, sockets := s.sockets.erase id, awaited := s.awaited.erase id }
    else if s.awaited.contains id || !c.stream.arriving.isEmpty then
      return { s with loop }
    else
      background (awaitData id socket news)
      return { s with loop, awaited := s.awaited.insert id }

/-- One occurrence and everything that follows from it. -/
def turn (s : Running) (news : News) (o : Occurrence) : IO Running := do
  let now ← IO.monoMsNow
  let s ← s.note now o
  let mut s ← s.settle now
  for (id, socket) in s.sockets.toList do
    s ← s.flush news id socket
  return { s with loop := { s.loop with closed := [] } }

/-- Serves until the program is to stop.  Then every connection is closed. -/
def serve (s : Running) (news : News) : IO Unit := do
  let mut s := s
  repeat
    match ← news.sync.recv with
    | .stop => break
    | o => s ← s.turn news o
  for (_, socket) in s.sockets.toList do
    send socket [] true

end Running

/-! ## Starting -/

/-- Says why the program does not start. -/
def refuse (text : String) : IO UInt32 := do
  IO.eprint text
  return 1

/-- Notes the course of things, if that is wanted. -/
def takeNote (c : Config) (text : String) : IO Unit := do
  if c.log.showsNotes then
    IO.println text
    (← IO.getStdout).flush

/-- Binds the address of a server. -/
def bind (address : Net.SocketAddress) : IO (Except Report Socket.Server) := do
  try
    let server ← Socket.Server.mk
    match toMachine? address with
    | none => return .error ⟨"binding " ++ address.text, ["Not an address"]⟩
    | some a =>
      server.bind a
      server.listen 1024
      return .ok server
  catch e => return .error ⟨"binding " ++ address.text, [words e]⟩

/-- The site a server serves. -/
def service (c : Config) : Http.Service where
  site := ⟨c.site.root, c.site.defaultPage⟩
  files := ⟨fun _ => .error .notFound, fun _ => .error .notFound⟩
  address := Url.parse?

/-- Serves with settings that have been checked, after a successful launch. -/
def run (l : CommandLine.Launch) (storage : Store.Storage) (store : IO.FS.Handle)
    (stored : Nat) : IO UInt32 := do
  match ← bind l.address with
  | .error report => refuse report.text
  | .ok server =>
    -- the clock is read in milliseconds
    let config := { l.config with clock := ⟨1000 * l.config.clock.idleUnit⟩ }
    match Server.EventLoop.start config (service config) l.credentials storage l.handles with
    | .error f => refuse (Report.text ⟨f.message, []⟩)
    | .ok loop =>
      takeNote config ("Listening at " ++ l.address.text)
      let news ← Std.Channel.new
      awaitSignal .sigint news
      awaitSignal .sigterm news
      background (awaitTicks l.config.clock.idleUnit news)
      background (awaitClients server news)
      takeNote config ("Serving " ++ config.site.root)
      Running.serve { loop, store, stored } news
      takeNote config "Server stopped"
      return 0

/-- Opens the credential file and reads it. -/
def openStore (path : String) : IO (Except Files.Fault (IO.FS.Handle × Bytes)) := do
  try
    let store ← IO.FS.Handle.mk path .append
    return (← contents path).map fun data => (store, data)
  catch e => return .error (fileFault e)

/-- Starts the program. -/
def start (args : List String) : IO UInt32 := do
  let vs ← environment
  let text ← match vs.configPath? with
    | none => pure (.error .notFound)
    | some path => readText path
  match CommandLine.settings args vs fun _ => text with
  | .error f => refuse f.text
  | .ok config =>
    let path := config.store.path
    match ← openStore path with
    | .error f => refuse (CommandLine.Fault.opening path (.files f)).text
    | .ok (store, data) =>
      let files := Files.Tree.empty.put (Utf8.encode path) (.file 0o644 data)
      match CommandLine.launch (fun _ => true) config { files } with
      | (.error f, _) => refuse f.text
      | (.ok l, storage) => run l storage store data.length

end Host
end SiteServer

/-- The program `webserv`. -/
def main (args : List String) : IO UInt32 := SiteServer.Host.start args
