import Chip8.Action

/-!
# Keypad

The sixteen logical keys 0 to F. Only whoever collects the input writes them;
the program reads.

## Main definitions

* `Keypad`: Which keys are held.
* `Keypad.set`: Press or release a key.
* `Keypad.lowest`: The lowest key that is held.
-/

namespace Chip8

/-- Which keys are held. -/
structure Keypad where
  held : Vector Bool 16
  deriving DecidableEq

namespace Keypad

/-- No key held. -/
def released : Keypad :=
  ⟨Vector.replicate 16 false⟩

/-- Whether a key is held. -/
def isHeld (k : Keypad) (i : Fin 16) : Bool :=
  k.held.get i

/-- Press or release a key. -/
def set (key : Int) (pressed : Bool) : Action Keypad Unit := fun k =>
  if h : 0 ≤ key ∧ key < 16 then
    .ok () ⟨k.held.set key.toNat pressed⟩
  else
    .error (.keyIndex key) k

/-- Whether a key is held. -/
def isPressed (key : Int) : Action Keypad Bool := fun k =>
  if h : 0 ≤ key ∧ key < 16 then
    .ok (k.isHeld ⟨key.toNat, by omega⟩) k
  else
    .error (.keyIndex key) k

/-- The lowest key that is held. -/
def lowest (k : Keypad) : Option (Fin 16) :=
  (List.finRange 16).find? k.isHeld

end Keypad

end Chip8
