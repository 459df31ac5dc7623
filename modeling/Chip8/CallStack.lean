import Chip8.Action

/-!
# Call Stack

Sixteen slots and a depth. A call fills the slot at the depth and moves it up,
a return moves it down and reads. Slots at or above the depth hold leftovers
that nothing reads before a call overwrites them; `toList` is the stack
without them.

## Main definitions

* `CallStack`: The slots and how many are in use.
* `CallStack.toList`: The return addresses in use, oldest first.
* `CallStack.call`, `CallStack.pop`: Enter and leave a subroutine.
-/

namespace Chip8

/-- The return addresses of the calls in progress. -/
structure CallStack where
  slots : Vector (BitVec 16) 16
  depth : Nat
  depth_le : depth ≤ 16
  deriving DecidableEq

namespace CallStack

/-- No call in progress. -/
def initial : CallStack :=
  ⟨Vector.replicate 16 0, 0, by decide⟩

/-- The return addresses in use, oldest first. -/
def toList (s : CallStack) : List (BitVec 16) :=
  s.slots.toList.take s.depth

/-- Enter a subroutine that returns to `a`, kept modulo 65536. -/
def call (a : Int) : Action CallStack Unit := fun s =>
  if h : s.depth < 16 then
    .ok () ⟨s.slots.set s.depth (BitVec.ofInt 16 a), s.depth + 1, h⟩
  else
    .error (.stackOverflow a) s

/-- Leave the latest subroutine: its return address. -/
def pop : Action CallStack Int := fun s =>
  match s with
  | ⟨slots, d + 1, h⟩ => .ok (slots[d].toNat : Int) ⟨slots, d, by omega⟩
  | ⟨_, 0, _⟩ => .error .stackUnderflow s

end CallStack

end Chip8
