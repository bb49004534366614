import SiteServer.Text.Unsigned

/-!
# Settings

Everything about the server that can be set, with the values that hold when nothing is
set.  Some settings must not be zero; `Config.zeroSetting?` names the first that is.
-/

namespace SiteServer

/-- Where the server listens and how much it takes on. -/
structure ServerSettings where
  address : String := "0.0.0.0"
  port : Nat := 9006
  /-- Sockets accepted beyond this are turned away. -/
  maxConnections : Nat := 65536
  /-- How many events are handled at once. -/
  eventsCapacity : Nat := 10000
  deriving DecidableEq, Repr

/-- What is served. -/
structure SiteSettings where
  root : String := "./root"
  defaultPage : String := "judge.html"
  deriving DecidableEq, Repr

/-- The workers. -/
structure PoolSettings where
  workers : Nat := 8
  /-- How many requests may wait for a worker. -/
  maxRequests : Nat := 10000
  deriving DecidableEq, Repr

/-- The clock. -/
structure ClockSettings where
  /-- Seconds between ticks.  A connection may be idle for three times as long. -/
  idleUnit : Nat := 5
  deriving DecidableEq, Repr

/-- The buffers of a connection. -/
structure BufferSettings where
  readCapacity : Nat := 2048
  writeCapacity : Nat := 1024
  deriving DecidableEq, Repr

/-- The credential file. -/
structure StoreSettings where
  path : String := "users.db"
  poolSize : Nat := 8
  deriving DecidableEq, Repr

/-- What is logged. -/
structure LogSettings where
  level : String := "info"
  deriving DecidableEq, Repr

/-- Whether notes on the course of things are shown, and not only warnings and errors. -/
def LogSettings.showsNotes (c : LogSettings) : Bool :=
  ["info", "debug", "trace", "3", "4", "5"].contains c.level.toLower

/-- All settings. -/
structure Config where
  server : ServerSettings := {}
  site : SiteSettings := {}
  pool : PoolSettings := {}
  clock : ClockSettings := {}
  buffers : BufferSettings := {}
  store : StoreSettings := {}
  log : LogSettings := {}
  deriving DecidableEq, Repr

namespace Config

/-- The settings that must not be zero, in the order in which they are looked at. -/
def positiveSettings (c : Config) : List (String × Nat) :=
  [("pool.workers", c.pool.workers),
    ("pool.max_requests", c.pool.maxRequests),
    ("store.pool_size", c.store.poolSize),
    ("buffers.read_capacity", c.buffers.readCapacity),
    ("buffers.write_capacity", c.buffers.writeCapacity),
    ("server.events_capacity", c.server.eventsCapacity),
    ("server.max_connections", c.server.maxConnections),
    ("timer.idle_unit_secs", c.clock.idleUnit)]

/-- The first setting that is zero and must not be. -/
def zeroSetting? (c : Config) : Option String :=
  (c.positiveSettings.find? fun (_, n) => n = 0).map Prod.fst

/-- The wording of the fault that a setting is zero. -/
def zeroMessage (name : String) : String := name ++ " must be greater than zero"

/-- The address to listen at, as text. -/
def listenAddress (c : Config) : String := c.server.address ++ ":" ++ toString c.server.port

end Config
end SiteServer
