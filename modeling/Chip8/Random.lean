/-!
# Sources of Random Numbers

A source is a state from which the next integer is drawn. The machine takes
whatever the source yields; a fair source yields bytes, and one that replays a
list is useful to steer a program.

## Main definitions

* `Source`: What it takes to draw from a state.
* `Source.draws`: The first values of a source.
* `Replay`: A list of integers, over and over.
-/

namespace Chip8

/-- A type of states from which integers are drawn one by one. -/
class Source (ρ : Type) where
  /-- The next value, and the state after it. -/
  next : ρ → Int × ρ

namespace Source

/-- The state after `n` draws. -/
def after {ρ : Type} [Source ρ] : Nat → ρ → ρ
  | 0, s => s
  | n + 1, s => after n (next s).2

/-- The first `n` values. -/
def draws {ρ : Type} [Source ρ] : Nat → ρ → List Int
  | 0, _ => []
  | n + 1, s => (next s).1 :: draws n (next s).2

end Source

/-- The values of a list in turn, starting again at its end. -/
structure Replay where
  values : List Int
  position : Nat
  deriving DecidableEq

/-- An empty list replays zeros. -/
instance : Source Replay where
  next r :=
    (r.values.getD (r.position % r.values.length) 0, { r with position := r.position + 1 })

end Chip8
