import Chip8.Document
import Chip8.Yaml.Literal
import Chip8.Yaml.Node.Merge

/-!
# Assembly

The values of a graph's nodes. Scalars have their values at once. Lists, sets and
mappings are only referred to at first and wait in a queue, which is worked
off from the front, so a document is assembled level by level: of two faults
the one that is less deeply nested is found first, and of two at one level the
one that comes first.

Each node has one value, however often it is referred to. Before a mapping is
assembled it is merged, and so is a set, which is written as the keys of one.

## Main definitions

* `Assembly`: The nodes, the values so far, and the queue.
* `Assembly.valueAt`: The value of a node as others hold it.
* `Assembly.Key.same`: Whether two keys are one.
* `Assembly.complete`: Assemble a list or a mapping.
* `Graph.document`: The document of a graph.
-/

namespace Chip8

namespace Yaml

/-- The state between two values. -/
structure Assembly where
  nodes : Nodes
  /-- The lists, sets and mappings that are assembled, by place. -/
  values : Array Value
  /-- Whether a place has been put into the queue. -/
  queued : Array Bool
  /-- All places of the queue, those that are done included. -/
  queue : Array Place

namespace Assembly

/-- An action on the state, with a failure that ends it. -/
abbrev Assemble := StateT Assembly (Except Failure)

/-- Put a place into the queue if it has never been there. -/
def enqueue (p : Place) : Assemble Unit :=
  modify fun s =>
    if s.queued.getD p true then s
    else { s with queued := s.queued.modify p fun _ => true, queue := s.queue.push p }

/-- The text of a scalar. A mapping can stand in for one: the scalar is under
    its key `=`. The first argument bounds the nesting, which has no end only if a
    mapping stands in for itself. -/
def textFrom (ns : Nodes) : Nat → Place → Except Failure Text
  | 0, _ => .error .tooDeep
  | fuel + 1, p =>
    match ns.contentAt p with
    | .scalar t => .ok t
    | .mapping entries =>
      match entries.find? fun (k, _) => ns.tagAt k = .value with
      | some (_, v) => textFrom ns fuel v
      | none => .error .malformed
    | .list _ => .error .malformed

/-- The text of a scalar, or of what stands in for one. -/
def textAt (ns : Nodes) (p : Place) : Except Failure Text :=
  textFrom ns (ns.size + 1) p

/-- The value of a scalar, or of what stands in for one. A timestamp is looked for in the
    scalar as it is written. -/
def literalAt (ns : Nodes) (p : Place) : Except Failure Value := do
  let t ← textAt ns p
  match ns.tagAt p, ns.contentAt p with
  | .timestamp, .mapping _ => .error .notText
  | tag, _ => Literal.value tag t

/-- The value of a node as others hold it: a reference to a list, a set or a mapping,
    and the value of any other. -/
def valueAt (p : Place) : Assemble Value := do
  let ns := (← get).nodes
  match ns.tagAt p with
  | .map | .set =>
    enqueue p
    return .shared true p
  | .seq | .omap | .pairs =>
    enqueue p
    return .shared false p
  | _ => literalAt ns p

/-- A key of a mapping, and where it comes from. -/
structure Key where
  place : Place
  value : Value
  /-- Whether it is written as the constant that stands for no number. -/
  isNoNumber : Bool

/-- Whether a key is a fraction and no number. -/
def Key.isNaN (k : Key) : Bool :=
  match k.value with
  | .real x => x.isNaN
  | _ => false

/-- Whether two keys are one. What is no number equals nothing, so it is one
    key only with itself: with the same node, and the constant with the
    constant. -/
def Key.same (a b : Key) : Bool :=
  Value.sameKey a.value b.value
    || (a.isNaN && b.isNaN && (a.place == b.place || (a.isNoNumber && b.isNoNumber)))

/-- The key at a place, which is no list, no set and no mapping. -/
def keyAt (p : Place) : Assemble Key := do
  let ns := (← get).nodes
  match ← valueAt p with
  | .shared _ _ => throw .malformed
  | v => return ⟨p, v, ((textAt ns p).map Literal.isNoNumber).toOption.getD false⟩

/-- The entries of a mapping, put in one after the other. -/
def entries (es : List (Key × Value)) : List (Place × Place) → Assemble Value.Entries
  | [] => return es.map fun (k, v) => (k.value, v)
  | (k, v) :: rest => do
    let key ← keyAt k
    let value ← valueAt v
    entries (Value.insertBy Key.same key value es) rest

/-- The only entry of the mapping at a place, as a pair. -/
def pairAt (p : Place) : Assemble Value := do
  match (← get).nodes.contentAt p with
  | .mapping [(k, v)] =>
    let key ← valueAt k
    let value ← valueAt v
    return .tuple [key, value]
  | _ => throw .malformed

/-- The entries of the mapping at a place, after it is merged. -/
def mergedEntries (p : Place) : Assemble Value.Entries := do
  let (_, ns) ← (Merge.mapping p).run (← get).nodes
  modify fun s => { s with nodes := ns }
  entries [] (ns.entriesAt p)

/-- Put down what stands at a place. -/
def settle (p : Place) (v : Value) : Assemble Unit :=
  modify fun s => { s with values := s.values.modify p fun _ => v }

/-- Assemble the list, set or mapping at a place. Its tag has to fit it. -/
def complete (p : Place) : Assemble Unit := do
  let ns := (← get).nodes
  match ns.tagAt p, ns.contentAt p with
  | .seq, .list items => settle p (.list (← items.mapM valueAt))
  | .omap, .list items | .pairs, .list items => settle p (.list (← items.mapM pairAt))
  | .map, .mapping _ => settle p (.mapping (← mergedEntries p))
  | .set, .mapping _ => settle p (.set ((← mergedEntries p).map Prod.fst))
  | _, _ => throw .malformed

/-- Work off the queue from its place `done` on. No place comes up twice, so
    the number of nodes bounds the steps. -/
def run : Nat → Nat → Assemble Unit
  | 0, _ => return
  | fuel + 1, done => do
    match (← get).queue[done]? with
    | some p => do
      complete p
      run fuel (done + 1)
    | none => return

/-- The state before the first value. -/
def start (ns : Nodes) : Assembly :=
  ⟨ns, .replicate ns.size .null, .replicate ns.size false, #[]⟩

end Assembly

/-- The document of a graph. -/
def Graph.document (g : Graph) : Except Failure Document := do
  let assembled : Assembly.Assemble Value := do
    let v ← Assembly.valueAt g.root
    Assembly.run g.nodes.size 0
    return v
  let (root, s) ← assembled.run (.start g.nodes)
  return ⟨root, s.values⟩

end Yaml

end Chip8
