import SiteServer.Http.Call

/-!
# Exchanges

What is done to a connection from one reset to the next: it is read, and processed after
each read, until there is a response, and then written until all of it was sent.  A
connection that is kept open has one exchange after another.
-/

namespace SiteServer

/-- Whether a read goes on after a delivery: octets arrive, or a signal has come in between. -/
def Delivery.isPlain : Delivery → Bool
  | .data bytes => !bytes.isEmpty
  | .fault f => f = .interrupted

namespace Http

/-- How a request arrives, and how its response is accepted. -/
structure Exchange where
  /-- What has come in for each read. -/
  pieces : List (List Delivery)
  /-- What each write meets. -/
  parts : List (List Acceptance)
  deriving DecidableEq, Repr

/-- The octets that come in. -/
def Exchange.octets (e : Exchange) : Bytes := e.pieces.flatten.flatMap Delivery.octets

/-- Nothing but octets come in, and they all find room. -/
def Exchange.Fits (e : Exchange) (capacity : Nat) : Prop :=
  (∀ d ∈ e.pieces.flatten, d.isPlain = true) ∧ e.octets.length ≤ capacity

instance (e : Exchange) (capacity : Nat) : Decidable (e.Fits capacity) :=
  inferInstanceAs (Decidable (_ ∧ _))

/-- All octets come in for one read. -/
def Exchange.atOnce (bytes : Bytes) (parts : List (List Acceptance)) : Exchange :=
  ⟨[[.data bytes]], parts⟩

/-- What an exchange has come to. -/
@[ext]
structure Exchange.Outcome where
  /-- What was read. -/
  received : Bytes
  /-- What the client has accepted. -/
  sent : Bytes
  /-- Whether the response keeps the connection open. -/
  keepAlive : Bool
  /-- The store after it. -/
  session : Store.Session
  deriving DecidableEq, Repr

/-- The store after some exchanges. -/
def Exchange.storeAfter (session : Store.Session) (outcomes : List Outcome) : Store.Session :=
  outcomes.foldl (fun _ outcome => outcome.session) session

namespace Connection

/-- Reads each piece as it comes in and processes after each read.  The last piece has to
be the first after which there is something to write. -/
def takeIn (v : Service) (c : Connection) (session : Store.Session) :
    List (List Delivery) → Option (Connection × Store.Session)
  | [] => none
  | piece :: pieces =>
    match ({ c with stream := c.stream.deliver piece }).read.2.process v session with
    | (.read, c, session) => takeIn v c session pieces
    | (.write, c, session) => if pieces = [] then some (c, session) else none
    | (.close, _, _) => none

/-- Writes until all was sent, which has to be at the last write. -/
def sendOut (c : Connection) : List (List Acceptance) → Option Connection
  | [] => none
  | part :: parts =>
    match ({ c with stream := c.stream.expect part }).write with
    | (.blocked _, c) => sendOut c parts
    | (.done _, c) => if parts = [] then some c else none
    | _ => none

/-- An exchange, after which the connection is reset. -/
def exchange (v : Service) (c : Connection) (session : Store.Session) (e : Exchange) :
    Option (Exchange.Outcome × Connection) :=
  match c.takeIn v session e.pieces with
  | none => none
  | some (c₁, session) =>
    match c₁.sendOut e.parts with
    | none => none
    | some c₂ =>
      some ({ received := c₁.buffer.data.drop c.buffer.data.length
              sent := c₂.stream.written.drop c.stream.written.length
              keepAlive := c₂.keepAlive
              session }, c₂.reset)

/-- One exchange after another. -/
def exchangeAll (v : Service) (c : Connection) (session : Store.Session) :
    List Exchange → Option (List Exchange.Outcome × Connection)
  | [] => some ([], c)
  | e :: es =>
    match c.exchange v session e with
    | none => none
    | some (outcome, c) =>
      match exchangeAll v c outcome.session es with
      | none => none
      | some (outcomes, c) => some (outcome :: outcomes, c)

end Connection
end Http
end SiteServer
