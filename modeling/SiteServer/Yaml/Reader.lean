import SiteServer.Yaml.Frame
import SiteServer.Yaml.Lexer

/-!
# From tokens to documents

Tokens are read one by one.  A token belongs to the innermost open collection, or, when
none is open, to the document or to what stands between documents.  One that closes a
collection without being a part of it is then offered to the collection around.
-/

namespace SiteServer
namespace Yaml

/-- What has been read in front of a node. -/
structure Properties where
  anchor : Option (List Char) := none
  /-- A handle and what follows it. -/
  tag : Option (List Char × Bytes) := none

namespace Properties

/-- Whether there are none. -/
def isEmpty (p : Properties) : Bool := p.anchor.isNone && p.tag.isNone

end Properties

/-- Where a reader is when no collection is open. -/
inductive Level where
  /-- Before a document: whether it is the first, and whether directives have been
  read. -/
  | outside (first directed : Bool)
  /-- The node of a document has to come, which may be left out if the document has been
  announced. -/
  | document (announced : Bool)
  /-- The node of a document has been read. -/
  | full (root : Node)

/-- A reader of tokens. -/
structure Reader where
  /-- The collections that are open, the innermost in front, each with the place of its
  anchor. -/
  frames : List (Frame × Option Nat) := []
  level : Level := .outside true false
  properties : Properties := {}
  /-- Whether a version has been read. -/
  versioned : Bool := false
  /-- The handles that directives have set. -/
  handles : List (List Char × Bytes) := []
  anchors : Anchors := {}
  /-- The documents read, the last in front. -/
  documents : List Document := []

namespace Reader

/-! ## Nodes -/

/-- What standard tags begin with. -/
def standardTags : Bytes := Utf8.encode "tag:yaml.org,2002:"

/-- Handles that need no directive. -/
def defaultHandles : List (List Char × Bytes) := [(['!'], [0x21]), (['!', '!'], standardTags)]

/-- Spells out a tag. -/
def tag? (r : Reader) (handle : List Char) (rest : Bytes) : Option Bytes :=
  if handle.isEmpty then some rest
  else ((r.handles ++ defaultHandles).lookup handle).map (· ++ rest)

/-- Ends the properties of a node at its beginning.  Yields its tag and the place of its
anchor. -/
def useProperties (r : Reader) : Option (Option Bytes × Option Nat × Reader) :=
  let p := r.properties
  let tag : Option (Option Bytes) :=
    match p.tag with
    | none => some none
    | some (handle, rest) => (r.tag? handle rest).map some
  match tag, p.anchor with
  | none, _ => none
  | some tag, none => some (tag, none, { r with properties := {} })
  | some tag, some name =>
    let (place, anchors) := r.anchors.add name
    some (tag, some place, { r with properties := {}, anchors })

/-- Keeps a complete node for its anchor. -/
def keep (r : Reader) (place : Option Nat) (n : Node) : Reader :=
  match place with
  | none => r
  | some p => { r with anchors := r.anchors.setNode p n }

/-- Puts a complete node where one has to come. -/
def put (r : Reader) (n : Node) : Reader :=
  match r.frames with
  | [] => { r with level := .full n }
  | (f, place) :: rest => { r with frames := (f.put n, place) :: rest }

/-- Reads a scalar. -/
def putScalar (r : Reader) (style : Style) (text : List Char) : Option Reader := do
  let (tag, place, r) ← r.useProperties
  let n := .scalar tag style text
  some ((r.keep place n).put n)

/-- Opens a collection. -/
def enter (r : Reader) (f : Frame) : Option Reader := do
  let (_, place, r) ← r.useProperties
  some { r with frames := (f, place) :: r.frames }

/-- What a token is at a place where a node has to come. -/
inductive Beginning where
  /-- The node, its first token or one of its properties. -/
  | node (r : Reader)
  /-- No part of a node. -/
  | other
  | fault

/-- An outcome that is a fault if there is no reader. -/
def Beginning.ofOption : Option Reader → Beginning
  | some r => .node r
  | none => .fault

/-- Reads a token where a node has to come. -/
def begin (r : Reader) (w : Want) (t : Token) : Beginning :=
  let p := r.properties
  match t with
  | .alias name =>
    if p.isEmpty then .ofOption ((r.anchors.number? name).map fun k => r.put (.alias k))
    else .other
  | .anchor name =>
    if p.anchor.isNone then .node { r with properties := { p with anchor := some name } }
    else .other
  | .tag handle rest =>
    if p.tag.isNone then .node { r with properties := { p with tag := some (handle, rest) } }
    else .other
  | .scalar style text => .ofOption (r.putScalar style text)
  | .flowSequence => .ofOption (r.enter (.flowSequence [] .ready))
  | .flowMapping => .ofOption (r.enter (.flowMapping [] .ready))
  | .blockSequence => if w.block then .ofOption (r.enter (.blockSequence [] false)) else .other
  | .blockMapping => if w.block then .ofOption (r.enter (.blockMapping [] .ready)) else .other
  | .blockEntry => if w.bare then .ofOption (r.enter (.bareSequence [] true)) else .other
  | _ => .other

/-! ## Documents -/

/-- The versions that can be read. -/
def isVersion (major minor : Nat) : Bool := major = 1 && (minor = 1 || minor = 2)

/-- Whether a token shows that the node of a document has been left out. -/
def endsDocument : Token → Bool
  | .version .. | .handle .. | .documentStart | .documentEnd | .streamEnd => true
  | _ => false

/-- Reads a token before a document. -/
def takeOutside (r : Reader) (first directed : Bool) (t : Token) : Option Reader :=
  match t with
  | .version major minor =>
    if r.versioned || !isVersion major minor then none
    else some { r with versioned := true, level := .outside first true }
  | .handle name start =>
    if (r.handles.lookup name).isSome then none
    else some { r with handles := r.handles ++ [(name, start)], level := .outside first true }
  | .documentStart => some { r with level := .document true }
  | .documentEnd => if first || directed then none else some r
  | .streamEnd => if directed then none else some r
  | t =>
    if first && !directed then
      match ({ r with level := .document false }).begin ⟨true, false⟩ t with
      | .node r => some r
      | _ => none
    else none

/-- Reads a token behind the node of a document. -/
def takeFull (r : Reader) (root : Node) (t : Token) : Option Reader :=
  let r := { r with
    level := .outside false false
    versioned := false
    handles := []
    anchors := {}
    documents := { root, anchors := r.anchors } :: r.documents }
  if t = .documentEnd then some r else r.takeOutside false false t

/-- Reads a token when no collection is open. -/
def takeOuter (r : Reader) (t : Token) : Option Reader :=
  match r.level with
  | .outside first directed => r.takeOutside first directed t
  | .full root => r.takeFull root t
  | .document announced =>
    match r.begin ⟨true, false⟩ t with
    | .node r => some r
    | .fault => none
    | .other =>
      if r.properties.isEmpty && !(announced && endsDocument t) then none
      else
        match r.putScalar .plain [] with
        | some r =>
          match r.level with
          | .full root => r.takeFull root t
          | _ => none
        | none => none

/-! ## Collections -/

/-- Applies a token to the innermost collection when no node has to come in it.  Tells
whether the token has yet to be offered to the collection around. -/
def takeTurn (r : Reader) (f : Frame) (place : Option Nat) (rest : List (Frame × Option Nat))
    (t : Token) : Option (Reader × Bool) :=
  match f.turn t with
  | .stay f => some ({ r with frames := (f, place) :: rest }, false)
  | .enter f inner => some ({ r with frames := (inner, none) :: (f, place) :: rest }, false)
  | .want f =>
    match ({ r with frames := (f, place) :: rest }).begin ⟨false, false⟩ t with
    | .node r => some (r, false)
    | _ => none
  | .close n spent => some (({ r with frames := rest }.keep place n).put n, !spent)
  | .fault => none

/-- Applies a token to the innermost collection. -/
def takeInner (r : Reader) (f : Frame) (place : Option Nat) (rest : List (Frame × Option Nat))
    (t : Token) : Option (Reader × Bool) :=
  match f.want? with
  | none => r.takeTurn f place rest t
  | some w =>
    match r.begin w t with
    | .node r => some (r, false)
    | .fault => none
    | .other =>
      if r.properties.isEmpty && !f.leavesOut t then none
      else
        let spends := r.properties.isEmpty && f.spendsToken
        match r.putScalar .plain [] with
        | none => none
        | some r =>
          match r.frames with
          | [] => none
          | (f, place) :: rest =>
            if spends then some (r, false) else r.takeTurn f place rest t

/-- Reads a token. -/
def take (r : Reader) (t : Token) : Option Reader :=
  match r.frames with
  | [] => r.takeOuter t
  | (f, place) :: rest =>
    match r.takeInner f place rest t with
    | none => none
    | some (r', false) => some r'
    | some (r', true) => if r'.frames.length < r.frames.length then r'.take t else none
termination_by r.frames.length

end Reader

/-- The documents of a stream, if it is one. -/
def parse? (text : List Char) : Option (List Document) := do
  let tokens ← tokens? text
  let r ← tokens.foldlM Reader.take {}
  some r.documents.reverse

end Yaml
end SiteServer
