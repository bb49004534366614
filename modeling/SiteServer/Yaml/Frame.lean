import SiteServer.Yaml.Node

/-!
# Collections that are open

While a document is read, each collection around the current token is a frame: what it
holds so far, and what may come next in it.
-/

namespace SiteServer
namespace Yaml

/-- What comes next in a mapping. -/
inductive Slot where
  /-- A key, or the end. -/
  | ready
  /-- A node that has been announced as a key. -/
  | key
  /-- A node that is a key without a value. -/
  | loneKey
  /-- A value for this key, or not. -/
  | afterKey (key : Node)
  /-- A node that has been announced as the value of this key. -/
  | value (key : Node)
  /-- In a flow collection, the end of an entry. -/
  | full

/-- What comes next in a flow sequence. -/
inductive Turn where
  /-- An item, or the end. -/
  | ready
  /-- An item. -/
  | item
  /-- The end of an entry. -/
  | full

/-- An open collection.  What it holds has the last in front. -/
inductive Frame where
  /-- Waiting says whether an item has been announced. -/
  | blockSequence (items : List Node) (waiting : Bool)
  /-- A sequence in a mapping that is indented no farther than the mapping. -/
  | bareSequence (items : List Node) (waiting : Bool)
  | blockMapping (pairs : List (Node × Node)) (slot : Slot)
  | flowSequence (items : List Node) (turn : Turn)
  /-- A mapping of one pair that is an item of a flow sequence. -/
  | flowPair (pairs : List (Node × Node)) (slot : Slot)
  | flowMapping (pairs : List (Node × Node)) (slot : Slot)

/-- The kinds of node that may come. -/
structure Want where
  /-- Whether block collections may come. -/
  block : Bool
  /-- Whether a bare sequence may come. -/
  bare : Bool

namespace Slot

/-- Whether a node has to come. -/
def isWaiting : Slot → Bool
  | key | loneKey | value _ => true
  | _ => false

/-- Puts a node where one has to come.  `next` is what comes after a pair. -/
def put (slot : Slot) (pairs : List (Node × Node)) (next : Slot) (n : Node) :
    List (Node × Node) × Slot :=
  match slot with
  | key => (pairs, afterKey n)
  | loneKey => ((n, .leftOut) :: pairs, next)
  | value k => ((k, n) :: pairs, next)
  | s => (pairs, s)

end Slot

namespace Frame

/-- The kinds of node that have to come next, if one has. -/
def want? : Frame → Option Want
  | blockSequence _ true | bareSequence _ true => some ⟨true, false⟩
  | blockMapping _ slot => if slot.isWaiting then some ⟨true, true⟩ else none
  | flowSequence _ .item => some ⟨false, false⟩
  | flowPair _ slot | flowMapping _ slot => if slot.isWaiting then some ⟨false, false⟩ else none
  | _ => none

/-- Puts a node where one has to come. -/
def put (n : Node) : Frame → Frame
  | blockSequence items _ => blockSequence (n :: items) false
  | bareSequence items _ => bareSequence (n :: items) false
  | flowSequence items _ => flowSequence (n :: items) .full
  | blockMapping pairs slot =>
    let (pairs, slot) := slot.put pairs .ready n
    blockMapping pairs slot
  | flowPair pairs slot =>
    let (pairs, slot) := slot.put pairs .full n
    flowPair pairs slot
  | flowMapping pairs slot =>
    let (pairs, slot) := slot.put pairs .full n
    flowMapping pairs slot

/-- Whether a token shows that the node that has to come has been left out. -/
def leavesOut (t : Token) : Frame → Bool
  | blockSequence .. => t = .blockEntry || t = .blockEnd
  | bareSequence .. => t = .blockEntry || t = .key || t = .value || t = .blockEnd
  | blockMapping .. => t = .key || t = .value || t = .blockEnd
  | flowPair _ .key => t = .value || t = .flowEntry || t = .flowSequenceEnd
  | flowPair .. => t = .flowEntry || t = .flowSequenceEnd
  | flowMapping _ .key => t = .value || t = .flowEntry || t = .flowMappingEnd
  | flowMapping _ (.value _) => t = .flowEntry || t = .flowMappingEnd
  | _ => false

/-- Whether the token that shows that a node has been left out counts for nothing else,
as after the key mark in a flow sequence. -/
def spendsToken : Frame → Bool
  | flowPair _ .key => true
  | _ => false

/-- Leaves out the value of a key if the token is not the mark of one. -/
def settle (t : Token) : Frame → Frame
  | blockMapping pairs (.afterKey k) =>
    if t = .value then blockMapping pairs (.afterKey k)
    else blockMapping ((k, .leftOut) :: pairs) .ready
  | flowPair pairs (.afterKey k) =>
    if t = .value then flowPair pairs (.afterKey k) else flowPair ((k, .leftOut) :: pairs) .full
  | flowMapping pairs (.afterKey k) =>
    if t = .value then flowMapping pairs (.afterKey k)
    else flowMapping ((k, .leftOut) :: pairs) .full
  | f => f

/-- What a token does to a frame in which no node has to come. -/
inductive Turned where
  | stay (f : Frame)
  /-- Opens a collection inside. -/
  | enter (f inner : Frame)
  /-- A node has to come, and the token is the first of it. -/
  | want (f : Frame)
  /-- The collection is complete.  The token may yet count for the one around it. -/
  | close (n : Node) (spent : Bool)
  | fault

/-- Applies a token to a frame in which no node has to come. -/
def turn (f : Frame) (t : Token) : Turned :=
  match f.settle t, t with
  | blockSequence items _, .blockEntry => .stay (blockSequence items true)
  | blockSequence items _, .blockEnd => .close (.sequence items.reverse) true
  | bareSequence items _, .blockEntry => .stay (bareSequence items true)
  | bareSequence items _, _ => .close (.sequence items.reverse) false
  | blockMapping pairs .ready, .key => .stay (blockMapping pairs .key)
  | blockMapping pairs .ready, .blockEnd => .close (.mapping pairs.reverse) true
  | blockMapping pairs (.afterKey k), .value => .stay (blockMapping pairs (.value k))
  | flowSequence items .ready, .flowSequenceEnd | flowSequence items .full, .flowSequenceEnd =>
    .close (.sequence items.reverse) true
  | flowSequence items .ready, .key => .enter (flowSequence items .item) (flowPair [] .key)
  | flowSequence items .ready, _ => .want (flowSequence items .item)
  | flowSequence items .full, .flowEntry => .stay (flowSequence items .ready)
  | flowPair pairs (.afterKey k), .value => .stay (flowPair pairs (.value k))
  | flowPair pairs .full, _ => .close (.mapping pairs.reverse) false
  | flowMapping pairs .ready, .flowMappingEnd | flowMapping pairs .full, .flowMappingEnd =>
    .close (.mapping pairs.reverse) true
  | flowMapping pairs .ready, .key => .stay (flowMapping pairs .key)
  | flowMapping pairs .ready, _ => .want (flowMapping pairs .loneKey)
  | flowMapping pairs .full, .flowEntry => .stay (flowMapping pairs .ready)
  | flowMapping pairs (.afterKey k), .value => .stay (flowMapping pairs (.value k))
  | _, _ => .fault

end Frame
end Yaml
end SiteServer
