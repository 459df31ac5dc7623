import Chip8.Value

/-!
# Documents

A document is a value together with the lists and mappings that are referred
to by their places. What is reached in two ways is written down once, and a
list or mapping may hold itself.

Seen from one of its values, a document is a tree: each reference is replaced
by what stands at its place, until a place comes up inside itself.

## Main definitions

* `Document`: A value and the places that it refers to.
* `Document.ofValue`: A document without places.
* `Document.resolve`: What a value refers to.
* `Document.view`: A value with its references replaced.
-/

namespace Chip8

/-- A value and the places that it refers to. -/
structure Document where
  root : Value
  places : Array Value
  deriving Inhabited

namespace Document

/-- A document without places. -/
def ofValue (v : Value) : Document :=
  ⟨v, #[]⟩

/-- What stands at a place. -/
def atPlace (d : Document) (place : Nat) : Value :=
  d.places.getD place .null

/-- What a value refers to, or the value itself. -/
def resolve (d : Document) : Value → Value
  | .shared _ place => d.atPlace place
  | v => v

/-- A value with its references replaced, except for those to a place of
    `above`. The first argument bounds the nesting. -/
def viewFrom (d : Document) : Nat → List Nat → Value → Value
  | 0, _, v => v
  | fuel + 1, above, v =>
    v.expand fun isMapping place =>
      if above.contains place then .shared isMapping place
      else viewFrom d fuel (place :: above) (d.atPlace place)

/-- A value with its references replaced. No path is longer than the number of
    places, since none comes up twice. -/
def view (d : Document) (v : Value) : Value :=
  d.viewFrom (d.places.size + 1) [] v

end Document

end Chip8
