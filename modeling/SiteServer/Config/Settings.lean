import SiteServer.Config.Basic
import SiteServer.Yaml.Reader
import SiteServer.Yaml.Value

/-!
# Settings from a document

A stream of at most one document, a mapping with a section for each group of settings.
What is not set keeps its default, and what is unknown is passed over.
-/

namespace SiteServer
namespace Config

open Yaml (Node Document readField)

/-- The number of a setting that may be as large as a word. -/
def wordSetting (d : Document) : Node → Option Nat := d.natural? Text.max64

/-- Reads the section about where the server listens. -/
def readServer (d : Document) (n : Node) : Option ServerSettings := do
  let fs ← d.fields? ["address", "port", "max_connections", "events_capacity"] n
  let base : ServerSettings := {}
  some {
    address := ← readField fs "address" base.address d.text?
    port := ← readField fs "port" base.port (d.natural? Text.max16)
    maxConnections := ← readField fs "max_connections" base.maxConnections (wordSetting d)
    eventsCapacity := ← readField fs "events_capacity" base.eventsCapacity (wordSetting d) }

/-- Reads the section about what is served. -/
def readSite (d : Document) (n : Node) : Option SiteSettings := do
  let fs ← d.fields? ["doc_root", "default_page"] n
  let base : SiteSettings := {}
  some {
    root := ← readField fs "doc_root" base.root d.text?
    defaultPage := ← readField fs "default_page" base.defaultPage d.text? }

/-- Reads the section about the workers. -/
def readPool (d : Document) (n : Node) : Option PoolSettings := do
  let fs ← d.fields? ["workers", "max_requests"] n
  let base : PoolSettings := {}
  some {
    workers := ← readField fs "workers" base.workers (wordSetting d)
    maxRequests := ← readField fs "max_requests" base.maxRequests (wordSetting d) }

/-- Reads the section about the clock. -/
def readClock (d : Document) (n : Node) : Option ClockSettings := do
  let fs ← d.fields? ["idle_unit_secs"] n
  let base : ClockSettings := {}
  some { idleUnit := ← readField fs "idle_unit_secs" base.idleUnit (wordSetting d) }

/-- Reads the section about the buffers. -/
def readBuffers (d : Document) (n : Node) : Option BufferSettings := do
  let fs ← d.fields? ["read_capacity", "write_capacity"] n
  let base : BufferSettings := {}
  some {
    readCapacity := ← readField fs "read_capacity" base.readCapacity (wordSetting d)
    writeCapacity := ← readField fs "write_capacity" base.writeCapacity (wordSetting d) }

/-- Reads the section about the credential file. -/
def readStore (d : Document) (n : Node) : Option StoreSettings := do
  let fs ← d.fields? ["path", "pool_size"] n
  let base : StoreSettings := {}
  some {
    path := ← readField fs "path" base.path d.text?
    poolSize := ← readField fs "pool_size" base.poolSize (wordSetting d) }

/-- Reads the section about what is logged. -/
def readLog (d : Document) (n : Node) : Option LogSettings := do
  let fs ← d.fields? ["level"] n
  let base : LogSettings := {}
  some { level := ← readField fs "level" base.level d.text? }

/-- Reads all settings from a document. -/
def ofDocument? (d : Document) : Option Config := do
  let fs ← d.fields? ["server", "site", "pool", "timer", "buffers", "store", "log"] d.root
  some {
    server := ← readField fs "server" {} (readServer d)
    site := ← readField fs "site" {} (readSite d)
    pool := ← readField fs "pool" {} (readPool d)
    clock := ← readField fs "timer" {} (readClock d)
    buffers := ← readField fs "buffers" {} (readBuffers d)
    store := ← readField fs "store" {} (readStore d)
    log := ← readField fs "log" {} (readLog d) }

/-- Reads all settings from a text. -/
def ofText? (text : List Char) : Option Config :=
  match Yaml.parse? text with
  | some [] => some {}
  | some [d] => ofDocument? d
  | _ => none

end Config
end SiteServer
