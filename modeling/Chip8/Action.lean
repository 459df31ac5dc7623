import Chip8.Fault

/-!
# Actions

An action on a state either completes with a result or is refused with a
fault. Either way it hands back a state: a refused action keeps what it had
changed before the refusal, which is how a failing instruction comes to have
moved the program counter.

## Main definitions

* `Action`: An action on a state.
* `Action.on`: An action on a component, as an action on the whole.
* `Action.check`: Refuse unless a condition holds.
-/

namespace Chip8

/-- An action on states of type `σ` with results of type `α`. -/
abbrev Action (σ α : Type) := EStateM Fault σ α

namespace Action

/-- Run an action on a component of the state. A refusal keeps the component's
    changes like any others. -/
@[inline]
def on {σ τ α : Type} (part : σ → τ) (put : σ → τ → σ) (a : Action τ α) : Action σ α :=
  fun s =>
    match a (part s) with
    | .ok x t => .ok x (put s t)
    | .error f t => .error f (put s t)

/-- Refuse with `f` unless `p` holds. -/
@[inline]
def check {σ : Type} (p : Prop) [Decidable p] (f : Fault) : Action σ Unit :=
  if p then pure () else throw f

/-- A value that may be a fault, as an action that changes nothing. -/
@[inline]
def lift {σ α : Type} (r : Except Fault α) : Action σ α :=
  fun s =>
    match r with
    | .ok x => .ok x s
    | .error f => .error f s

end Action

end Chip8
