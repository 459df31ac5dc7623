import Chip8.Yaml.Failure
import Chip8.Yaml.Node

/-!
# Merging

In a mapping, a key `<<` brings in the entries of another mapping, or of a
list of them. They come before the mapping's own entries, and those of an
earlier mapping in the list come after those of a later one, so that the
nearest entry of a key is the one that holds.

A mapping is merged in place, and so are those that it brings in. One that is
still being merged when it is brought in has the entries that it has by then.
The key `=`, which stands for a mapping as a whole elsewhere, is a text once
its mapping has been merged.

Each step takes an entry with the key `<<` away and none puts one back, so the
number of entries bounds the steps.

## Main definitions

* `Merge.mapping`: Merge the mapping at a place.
-/

namespace Chip8

namespace Yaml

namespace Merge

/-- An action on the nodes, with a failure that ends it. -/
abbrev Merging := StateT Nodes (Except Failure)

/-- Take a key `=` for a text. -/
def settleKey (key : Place) : Merging Unit :=
  modify fun ns => if ns.tagAt key = .value then ns.setTag key .str else ns

/-- Merge the mapping at a place from its entry `index` on. `taken` is what
    has been brought in so far. -/
def mappingFrom : Nat → Place → Nat → List (Place × Place) → Merging Unit
  | 0, _, _, _ => throw .malformed
  | fuel + 1, p, index, taken => do
    let ns ← get
    let entries := ns.entriesAt p
    let own := (entries.drop index).takeWhile fun (k, _) => ns.tagAt k ≠ .merge
    own.forM fun (k, _) => settleKey k
    let index := index + own.length
    match entries.drop index with
    | [] => modify fun ns => ns.setContent p (.mapping (taken ++ entries))
    | (_, source) :: later => do
      modify fun ns => ns.setContent p (.mapping (entries.take index ++ later))
      let entriesOf (q : Place) : Merging (List (Place × Place)) := do
        match (← get).contentAt q with
        | .mapping _ =>
          mappingFrom fuel q 0 []
          return (← get).entriesAt q
        | _ => throw .malformed
      let more ←
        match (← get).contentAt source with
        | .list items => do pure (← items.mapM entriesOf).reverse.flatten
        | _ => entriesOf source
      mappingFrom fuel p index (taken ++ more)

/-- Merge the mapping at a place. -/
def mapping (p : Place) : Merging Unit := do
  mappingFrom ((← get).entryCount + 1) p 0 []

end Merge

end Yaml

end Chip8
