import Chip8.Yaml.Node
import Chip8.Yaml.Token

/-!
# Nodes from Tokens

The grammar of documents. Every missing node is an empty plain scalar, which
counts as nothing at all: behind a colon, before one, or between a dash and
the next.

A list or mapping has its place before its parts have theirs, so that they can
refer to it. A fault in the text counts as soon as the token at the fault is
looked at.

The first argument of each function bounds its steps. Between two steps that
take a token there are never more than three that take none.

## Main definitions

* `Builder`: The tokens left, the short forms of tags, and the nodes so far.
* `Builder.node`: A node.
* `Builder.document`: The only document of a text.
* `Graph.ofTokens`: The graph of a list of tokens.
-/

namespace Chip8

namespace Yaml

/-- The state between two tokens. -/
structure Builder where
  tokens : List Token
  /-- What the short forms of tags stand for. -/
  handles : List (String × String)
  /-- The places that aliases can name, latest first. -/
  anchors : List (String × Place)
  nodes : Nodes

namespace Builder

/-- An action on the state, with a failure that ends it. -/
abbrev Build := StateT Builder (Except Failure)

/-- The next token. A fault is no token. -/
def peek : Build Token := do
  match (← get).tokens.headD .streamEnd with
  | .broken f => throw f
  | t => return t

/-- Pass over the next token. -/
def drop : Build Unit :=
  modify fun s => { s with tokens := s.tokens.tail }

/-- Fail at the next token. -/
def refuse {α : Type} : Build α := do
  let _ ← peek
  throw .malformed

/-- Pass over the next token if it is `t`. -/
def accept (t : Token) : Build Bool := do
  if (← peek) = t then
    drop
    return true
  else return false

/-- Pass over the next token, which has to be `t`. -/
def expect (t : Token) : Build Unit := do
  if !(← accept t) then refuse

/-- Whether the next token is one of `ts`. -/
def nextIn (ts : List Token) : Build Bool := do
  return ts.contains (← peek)

/-- Give a node a place. -/
def add (n : Node) : Build Place := do
  let p := (← get).nodes.size
  modify fun s => { s with nodes := s.nodes.push n }
  return p

/-- A node that is not written out. -/
def missing : Build Place :=
  add .missing

/-- The name and the tag before a node, in either order. -/
def properties : Build (Option String × Option Token) := do
  match ← peek with
  | .anchor n =>
    drop
    match ← peek with
    | .tag h s =>
      drop
      return (some n, some (.tag h s))
    | _ => return (some n, none)
  | .tag h s =>
    drop
    match ← peek with
    | .anchor n =>
      drop
      return (some n, some (.tag h s))
    | _ => return (none, some (.tag h s))
  | _ => return (none, none)

/-- The full name of a tag. -/
def tagName (t : Option Token) : Build (Option String) := do
  match t with
  | some (.tag none s) => return some s
  | some (.tag (some h) s) =>
    match (← get).handles.lookup h with
    | some lead => return some (lead ++ s)
    | none => throw .malformed
  | _ => return none

/-- The tag of a scalar: as written, by its form, or that of texts. A lone
    exclamation mark asks for the form. -/
def scalarTag (name : Option String) (text : Text) (isPlain : Bool) : Tag :=
  match name with
  | none => if isPlain then .ofPlain text else .str
  | some n => if n = "!" then .ofPlain text else .ofName n

/-- The tag of a collection: as written, or its own. -/
def collectionTag (name : Option String) (own : Tag) : Tag :=
  match name with
  | none => own
  | some n => if n = "!" then own else .ofName n

/-- Refuse a name that has been given before. -/
def checkAnchor (anchor : Option String) : Build Unit := do
  if let some n := anchor then
    if ((← get).anchors.lookup n).isSome then throw .malformed

/-- Name a place. -/
def namePlace (anchor : Option String) (p : Place) : Build Unit := do
  if let some a := anchor then
    modify fun s => { s with anchors := (a, p) :: s.anchors }

/-- A node with its name. -/
def named (anchor : Option String) (n : Node) : Build Place := do
  checkAnchor anchor
  let p ← add n
  namePlace anchor p
  return p

/-- A scalar with its name and tag. -/
def scalarNode (anchor name : Option String) (text : Text) (isPlain : Bool) : Build Place :=
  named anchor ⟨scalarTag name text isPlain, .scalar text⟩

/-- Let the node at a place hold parts that can refer to it. -/
def fill (p : Place) (content : Build Content) : Build Place := do
  let c ← content
  modify fun s => { s with nodes := s.nodes.setContent p c }
  return p

/-- A list with its name and tag. -/
def listNode (anchor name : Option String) (items : Build (List Place)) : Build Place := do
  fill (← named anchor ⟨collectionTag name .seq, .list []⟩) (Content.list <$> items)

/-- A mapping with its name and tag. -/
def mappingNode (anchor name : Option String) (entries : Build (List (Place × Place))) :
    Build Place := do
  fill (← named anchor ⟨collectionTag name .map, .mapping []⟩) (Content.mapping <$> entries)

/-- Nothing behind a name or a tag; without either, a node has to be there. -/
def emptyNode (anchor name : Option String) : Build Place :=
  if anchor.isSome || name.isSome then scalarNode anchor name "" true else refuse

mutual

/-- A node, in a block or between brackets. A list of dashes may stand at the
    column of the key that it belongs to, where `flush` says so. -/
def node (inBlock flush : Bool) : Nat → Build Place
  | 0 => throw .malformed
  | fuel + 1 => do
    if let .alias n ← peek then
      drop
      match (← get).anchors.lookup n with
      | some target => return target
      | none => throw .malformed
    else
      let (anchor, tag) ← properties
      let name ← tagName tag
      content inBlock flush anchor name fuel

/-- A node behind its name and tag. -/
def content (inBlock flush : Bool) (anchor name : Option String) : Nat → Build Place
  | 0 => throw .malformed
  | fuel + 1 => do
    let t ← peek
    if flush && t == .item then listNode anchor name (flushItems fuel)
    else
      match t with
      | .scalar text isPlain =>
        drop
        scalarNode anchor name text isPlain
      | .openList =>
        drop
        listNode anchor name (flowItems true fuel)
      | .openMapping =>
        drop
        mappingNode anchor name (flowEntries true fuel)
      | .blockSequence =>
        if inBlock then
          drop
          listNode anchor name (blockItems fuel)
        else emptyNode anchor name
      | .blockMapping =>
        if inBlock then
          drop
          mappingNode anchor name (blockEntries fuel)
        else emptyNode anchor name
      | _ => emptyNode anchor name

/-- The items of a list of dashes. -/
def blockItems : Nat → Build (List Place)
  | 0 => throw .malformed
  | fuel + 1 => do
    if ← accept .item then
      let n ←
        if ← nextIn [.item, .blockEnd] then missing else node true false fuel
      return n :: (← blockItems fuel)
    else
      expect .blockEnd
      return []

/-- The items of a list of dashes at the column of its key. -/
def flushItems : Nat → Build (List Place)
  | 0 => throw .malformed
  | fuel + 1 => do
    if ← accept .item then
      let n ←
        if ← nextIn [.item, .key, .value, .blockEnd] then missing else node true false fuel
      return n :: (← flushItems fuel)
    else return []

/-- The entries of a mapping in a block. -/
def blockEntries : Nat → Build (List (Place × Place))
  | 0 => throw .malformed
  | fuel + 1 => do
    if ← accept .key then
      let k ← blockPart fuel
      let v ← blockValue fuel
      return (k, v) :: (← blockEntries fuel)
    else
      expect .blockEnd
      return []

/-- The value of an entry in a block. -/
def blockValue : Nat → Build Place
  | 0 => throw .malformed
  | fuel + 1 => do
    if ← accept .value then blockPart fuel else missing

/-- A key or a value in a block. -/
def blockPart : Nat → Build Place
  | 0 => throw .malformed
  | fuel + 1 => do
    if ← nextIn [.key, .value, .blockEnd] then missing else node true true fuel

/-- The items of a list between brackets. -/
def flowItems (first : Bool) : Nat → Build (List Place)
  | 0 => throw .malformed
  | fuel + 1 => do
    if ← accept .closeList then return []
    if !first then expect .comma
    if ← accept .closeList then return []
    if ← accept .key then
      let k ← flowPart [.value, .comma, .closeList] fuel
      let v ← flowValue [.comma, .closeList] fuel
      let p ← add ⟨.map, .mapping [(k, v)]⟩
      return p :: (← flowItems false fuel)
    else
      let n ← node false false fuel
      return n :: (← flowItems false fuel)

/-- The entries of a mapping between braces. -/
def flowEntries (first : Bool) : Nat → Build (List (Place × Place))
  | 0 => throw .malformed
  | fuel + 1 => do
    if ← accept .closeMapping then return []
    if !first then expect .comma
    if ← accept .closeMapping then return []
    if ← accept .key then
      let k ← flowPart [.value, .comma, .closeMapping] fuel
      let v ← flowValue [.comma, .closeMapping] fuel
      return (k, v) :: (← flowEntries false fuel)
    else
      let k ← node false false fuel
      let v ← missing
      return (k, v) :: (← flowEntries false fuel)

/-- The value of an entry between brackets. -/
def flowValue (stops : List Token) : Nat → Build Place
  | 0 => throw .malformed
  | fuel + 1 => do
    if ← accept .value then flowPart stops fuel else missing

/-- A key or a value between brackets. -/
def flowPart (stops : List Token) : Nat → Build Place
  | 0 => throw .malformed
  | fuel + 1 => do
    if ← nextIn stops then missing else node false false fuel

end

/-! ### Documents -/

/-- The short forms that every document knows. -/
def standardHandles : List (String × String) :=
  [("!", "!"), ("!!", Tag.standard)]

/-- The directives before a document: a version at most once, and each short
    form at most once. -/
def directives (hasVersion : Bool) (handles : List (String × String)) :
    Nat → Build (List (String × String))
  | 0 => throw .malformed
  | fuel + 1 => do
    match ← peek with
    | .version major _ =>
      drop
      if hasVersion || major != 1 then throw .malformed
      directives true handles fuel
    | .tagHandle h lead =>
      drop
      if (handles.lookup h).isSome then throw .malformed
      directives hasVersion ((h, lead) :: handles) fuel
    | .directive =>
      drop
      directives hasVersion handles fuel
    | _ => return handles ++ standardHandles

/-- Pass over the marks of documents' ends. -/
def skipEnds : Nat → Build Unit
  | 0 => throw .malformed
  | fuel + 1 => do
    if ← accept .documentEnd then skipEnds fuel

/-- Whether a document is announced before its content. -/
def isAnnounced (t : Token) : Bool :=
  match t with
  | .version _ _ | .tagHandle _ _ | .directive | .documentStart => true
  | _ => false

/-- What stands between the announcement and the end of a document. -/
def announced (fuel : Nat) : Build Place := do
  let handles ← directives false [] fuel
  expect .documentStart
  modify fun s => { s with handles := handles }
  let t ← peek
  if isAnnounced t || t == .documentEnd || t == .streamEnd then missing
  else node true false fuel

/-- Nothing but the end of the text. The announcement of another document is
    read before it is refused. -/
def lastDocument (fuel : Nat) : Build Unit := do
  skipEnds fuel
  if !(← accept .streamEnd) then
    let _ ← directives false [] fuel
    refuse

/-- The only document of a text, if it has one. -/
def document (fuel : Nat) : Build (Option Place) := do
  let t ← peek
  if t = .streamEnd then return none
  let p ← if isAnnounced t then announced fuel else node true false fuel
  lastDocument fuel
  return some p

end Builder

/-- The graph of a list of tokens, if there is a document. -/
def Graph.ofTokens (tokens : List Token) : Except Failure (Option Graph) := do
  let start : Builder := ⟨tokens, Builder.standardHandles, [], #[]⟩
  let (root, b) ← (Builder.document (4 * tokens.length + 8)).run start
  return root.map fun p => ⟨b.nodes, p⟩

end Yaml

end Chip8
