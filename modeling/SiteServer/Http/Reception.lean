import SiteServer.Http.Parser

/-!
# Receptions

A parser and the buffer it reads from.  Octets come in, the parser is called, and at any time
either of the two may be made what it was at the start.  `Connection` does all of this in a
certain order; here the order is free.
-/

namespace SiteServer
namespace Http

/-- A parser at its buffer. -/
structure Reception where
  parser : Parser
  buffer : ReceiveBuffer
  /-- Whether the parser has handed out the body for which it waited, and goes on waiting. -/
  delivered : Bool := false
  deriving DecidableEq, Repr

namespace Reception

/-- What is done to the two. -/
inductive Act where
  /-- Octets are put into the buffer, as many as there is room for. -/
  | extend (bytes : Bytes)
  /-- The buffer is filled once from a stream. -/
  | fill (s : Stream)
  /-- The parser takes what the buffer holds. -/
  | parse
  /-- The buffer is emptied. -/
  | clear
  /-- The parser is made fresh. -/
  | renew
  deriving DecidableEq, Repr

/-- A fresh parser at an empty buffer. -/
def ofCapacity (capacity : Nat) : Reception := ⟨.fresh, .ofCapacity capacity, false⟩

/-- One act.  A parser that hands out a request and then waits for a body has just handed that
body out. -/
def step (d : Dialect) (r : Reception) : Act → Reception
  | .extend bytes => { r with buffer := r.buffer.extend bytes }
  | .fill s => { r with buffer := (r.buffer.fill s).2.1 }
  | .parse =>
    match r.parser.parse d r.buffer with
    | (.ok (.complete _), parser, buffer) =>
      ⟨parser, buffer, r.delivered || parser.state = .body⟩
    | (_, parser, buffer) => { r with parser, buffer }
  | .clear => { r with buffer := r.buffer.clear }
  | .renew => { r with parser := .fresh, delivered := false }

/-- Some acts, one after another. -/
def run (d : Dialect) (r : Reception) (acts : List Act) : Reception := acts.foldl (step d) r

end Reception
end Http
end SiteServer
