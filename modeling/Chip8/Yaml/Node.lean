import Chip8.Text.Basic
import Chip8.Yaml.Tag

/-!
# Nodes

A document as a graph. Its nodes are scalars with their text, lists and
mappings, each with its tag, and lists and mappings name their parts by place.
An alias adds no node: it is another name of a place, perhaps of one that it
is inside of.

## Main definitions

* `Node`: The nodes.
* `Nodes`: The nodes of a document, by place.
* `Graph`: The nodes of a document and the place of the outermost.
-/

namespace Chip8

namespace Yaml

/-- Where a node stands among those of its document. -/
abbrev Place := Nat

/-- What a node holds. -/
inductive Content where
  | scalar (text : Text)
  | list (items : List Place)
  | mapping (entries : List (Place × Place))
  deriving Inhabited

/-- A node of a document. -/
structure Node where
  tag : Tag
  content : Content

/-- A node that is not written out. -/
def Node.missing : Node :=
  ⟨.null, .scalar ""⟩

instance : Inhabited Node := ⟨.missing⟩

/-- The nodes of a document, by place. -/
abbrev Nodes := Array Node

namespace Nodes

/-- The tag of the node at a place. -/
def tagAt (ns : Nodes) (p : Place) : Tag :=
  (ns.getD p .missing).tag

/-- What the node at a place holds. -/
def contentAt (ns : Nodes) (p : Place) : Content :=
  (ns.getD p .missing).content

/-- The entries of the mapping at a place. Other nodes have none. -/
def entriesAt (ns : Nodes) (p : Place) : List (Place × Place) :=
  match ns.contentAt p with
  | .mapping entries => entries
  | _ => []

/-- Give the node at a place another tag. -/
def setTag (ns : Nodes) (p : Place) (t : Tag) : Nodes :=
  ns.modify p fun n => { n with tag := t }

/-- Give the node at a place another content. -/
def setContent (ns : Nodes) (p : Place) (c : Content) : Nodes :=
  ns.modify p fun n => { n with content := c }

/-- How many entries all mappings have together. -/
def entryCount (ns : Nodes) : Nat :=
  (List.range ns.size).foldl (fun n p => n + (ns.entriesAt p).length) 0

end Nodes

/-- The nodes of a document and the place of the outermost. -/
structure Graph where
  nodes : Nodes
  root : Place

end Yaml

end Chip8
