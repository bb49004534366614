import SiteServer.Http.Reception

/-!
# Within bounds

The receive buffer and the parser once more, one octet and one machine word at a time.  A sum or
a difference has to fit into a word of 64 bits, an octet that is looked at has to be there, a
slice has to lie within the octets, the scanner must not go beyond them, and a call takes no more
turns than it is allowed.  Where anything of this fails there is no answer.

`Reception.use` adds to the acts of a reception that the scanner may be called without the parser.
-/

namespace SiteServer

/-! ## Words -/

namespace Word

/-- The number of words of 64 bits. -/
def count : Nat := 0x10000000000000000

/-- The sum of two words, if it is a word. -/
def add? (a b : Nat) : Option Nat := if a + b < count then some (a + b) else none

/-- The difference of two words, if it is a word. -/
def sub? (a b : Nat) : Option Nat := if b ≤ a then some (a - b) else none

end Word

/-- The octets from `start` up to, and without, `stop`, if they are there. -/
def Bytes.slice? (octets : Bytes) (start stop : Nat) : Option Bytes :=
  if start ≤ stop ∧ stop ≤ octets.length then some ((octets.drop start).take (stop - start))
  else none

namespace Http

/-! ## The buffer -/

namespace ReceiveBuffer

/-- How many octets there is room for. -/
def remaining? (b : ReceiveBuffer) : Option Nat := Word.sub? b.capacity b.size

/-- Moves the scanner to a place within the octets, or to their end. -/
def lookTo? (b : ReceiveBuffer) (place : Nat) : Option ReceiveBuffer :=
  if place ≤ b.size then some { b with checked := place } else none

/-- Adds as many of the octets as there is room for. -/
def extend? (b : ReceiveBuffer) (bytes : Bytes) : Option ReceiveBuffer := do
  let room ← b.remaining?
  let part ← bytes.slice? 0 (min bytes.length room)
  return { b with data := b.data ++ part }

/-- Reads once from the stream into the free room, and cuts off what of it was not written to. -/
def fill? (b : ReceiveBuffer) (s : Stream) :
    Option (Except StreamFault Fill × ReceiveBuffer × Stream) := do
  let room ← b.remaining?
  if room = 0 then return (.ok .full, b, s)
  let window ← b.padded.slice? b.size b.padded.length
  match s.read window.length with
  | (.error f, s) => return (.error f, { b with data := b.padded.take b.size }, s)
  | (.ok bytes, s) =>
    let stop ← Word.add? b.size bytes.length
    return (.ok (if bytes.isEmpty then .closed else .read bytes.length),
      { b with data := (overwrite b.padded b.size bytes).take stop }, s)

/-- Looks at one octet after another for the end of the line. -/
def scanFrom? (b : ReceiveBuffer) (place : Nat) : Option (LineScan × ReceiveBuffer) :=
  if place < b.size then do
    let c ← b.data[place]?
    if c = Bytes.cr then
      let next ← Word.add? place 1
      if next = b.size then
        let b ← b.lookTo? place
        return (.incomplete, b)
      let d ← b.data[next]?
      if d = Bytes.lf then
        let past ← Word.add? place 2
        let b ← b.lookTo? past
        return (.complete b.lineBegin place, b)
      let b ← b.lookTo? place
      return (.malformed, b)
    else if c = Bytes.lf then
      let b ← b.lookTo? place
      return (.malformed, b)
    else
      let _next ← Word.add? place 1
      b.scanFrom? (place + 1)
  else do
    let b ← b.lookTo? place
    return (.incomplete, b)
termination_by b.size - place

/-- Looks for the end of the current line. -/
def nextLine? (b : ReceiveBuffer) : Option (LineScan × ReceiveBuffer) := b.scanFrom? b.checked

end ReceiveBuffer

/-! ## The parser -/

namespace Parser

/-- The turn of a parser that waits for a body. -/
def bodyTurn? (p : Parser) (b : ReceiveBuffer) : Option (Turn × Parser × ReceiveBuffer) := do
  let stop ← Word.add? b.checked p.contentLength
  if b.size < stop then return (.stop (.ok .incomplete), p, b)
  let looked ← b.lookTo? stop
  let body ← b.data.slice? b.checked stop
  let (request, p') := p.finish body
  return (.stop (.ok (.complete request)), p', looked.beginLine)

/-- One turn: the body if the parser waits for it, else the next line. -/
def advance? (d : Dialect) (p : Parser) (b : ReceiveBuffer) :
    Option (Turn × Parser × ReceiveBuffer) :=
  if p.state = .body then bodyTurn? p b
  else do
    let (found, b) ← b.nextLine?
    match found with
    | .incomplete => return (.stop (.ok .incomplete), p, b)
    | .malformed => return (.stop (.error .malformedLine), p, b)
    | .complete start stop =>
      let b := b.beginLine
      -- the room for a body, which the turn takes from the buffer
      let _available ← Word.sub? b.capacity b.checked
      let line ← b.data.slice? start stop
      let (turn, p) := lineTurn p d line b
      return (turn, p, b)

/-- Takes turns until there is something to say, but no more than so many. -/
def parse? (d : Dialect) : Nat → Parser → ReceiveBuffer →
    Option (Except Refusal Progress × Parser × ReceiveBuffer)
  | 0, _, _ => none
  | turns + 1, p, b => do
    let (turn, p, b) ← advance? d p b
    match turn with
    | .stop answer => return (answer, p, b)
    | .again => parse? d turns p b

end Parser

/-! ## Any use -/

namespace Reception

/-- What may be done to a parser and its buffer. -/
inductive Use where
  | act (a : Act)
  /-- The scanner looks for the end of the line, and the parser is not told. -/
  | scan
  deriving DecidableEq, Repr

/-- One use. -/
def use (d : Dialect) (r : Reception) : Use → Reception
  | .act a => r.step d a
  | .scan => { r with buffer := r.buffer.nextLine.2 }

/-- Some uses, one after another. -/
def useAll (d : Dialect) (r : Reception) (uses : List Use) : Reception := uses.foldl (use d) r

end Reception
end Http
end SiteServer
