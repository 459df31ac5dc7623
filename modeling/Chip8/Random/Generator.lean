import Chip8.Random.Twister

/-!
# Generators

The sources that a machine is built with: a seeded twister, or a list that is
replayed to steer a program.

## Main definitions

* `Generator`: Either source.
-/

namespace Chip8

/-- A seeded twister or a replayed list. -/
inductive Generator where
  | twister (t : Twister)
  | replay (r : Replay)
  deriving DecidableEq

instance : Source Generator where
  next
    | .twister t =>
      let (v, t) := Source.next t
      (v, .twister t)
    | .replay r =>
      let (v, r) := Source.next r
      (v, .replay r)

/-- The twister of a seed. -/
def Generator.ofSeed (seed : Int) : Generator :=
  .twister (.ofSeed seed)

end Chip8
