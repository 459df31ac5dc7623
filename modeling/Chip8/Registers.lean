import Chip8.Action
import Chip8.Bytes

/-!
# Registers

The sixteen byte registers V0 to VF. VF doubles as the flag register: every
operation with a carry, a borrow or a bit shifted out writes its result first
and its flag to VF last, so the flag is what remains when the destination is
VF itself.

## Main definitions

* `Flagged`: A result with its flag.
* `Flagged.add`, `Flagged.sub`, `Flagged.shiftRight`, `Flagged.shiftLeft`: The
  arithmetic, on integers of any size.
* `Registers`: The sixteen registers.
* `Registers.store`: A result and its flag, written in this order.
* `Registers.add`, `Registers.sub`, `Registers.subReverse`,
  `Registers.shiftRight`, `Registers.shiftLeft`: The arithmetic on registers.
* `Registers.dump`, `Registers.load`: The first registers as a block.
-/

namespace Chip8

/-- The result of an operation and the flag that it leaves in VF. -/
structure Flagged where
  value : Int
  flag : Int
  deriving DecidableEq, Repr

namespace Flagged

/-- A condition as a flag. -/
def bit (p : Prop) [Decidable p] : Int :=
  if p then 1 else 0

/-- Addition modulo 256, flagged when the sum does not fit a byte. -/
def add (a b : Int) : Flagged :=
  ⟨(a + b) % 256, bit (255 < a + b)⟩

/-- Subtraction modulo 256, flagged when the first operand is the greater. -/
def sub (a b : Int) : Flagged :=
  ⟨(a - b) % 256, bit (b < a)⟩

/-- Halving, rounded down, flagged with the bit that falls out. -/
def shiftRight (a : Int) : Flagged :=
  ⟨a / 2, a % 2⟩

/-- Doubling modulo 256, flagged with bit 7. -/
def shiftLeft (a : Int) : Flagged :=
  ⟨2 * a % 256, a / 128 % 2⟩

end Flagged

/-- The sixteen registers. -/
structure Registers where
  cells : Vector UInt8 16
  deriving DecidableEq

namespace Registers

/-- The flag register VF. -/
def flagIndex : Int := 15

/-- The registers at the start. -/
def initial : Registers :=
  ⟨Vector.replicate 16 0⟩

/-- The numbers of registers. -/
def IsIndex (i : Int) : Prop :=
  0 ≤ i ∧ i < 16

instance (i : Int) : Decidable (IsIndex i) :=
  inferInstanceAs (Decidable (_ ∧ _))

/-- The register of a number, zero where there is none. -/
def cell (r : Registers) (i : Nat) : UInt8 :=
  r.cells[i]?.getD 0

/-- The registers with one of them replaced. -/
def put (r : Registers) (i : Nat) (b : UInt8) : Registers :=
  ⟨r.cells.setIfInBounds i b⟩

/-- Refuse a number that is no register's. -/
def check {σ : Type} (i : Int) : Action σ Unit :=
  Action.check (IsIndex i) (.registerIndex i)

/-- The value of a register. -/
def read (i : Int) : Action Registers UInt8 := do
  check i
  return (← get).cell i.toNat

/-- Write a register. The number is looked at before the value. -/
def write (i v : Int) : Action Registers Unit := do
  check i
  Action.check (Bytes.IsByte v) (.misuse (.register v))
  modify fun r => r.put i.toNat (Bytes.ofInt v)

/-- Write a result, then its flag. A flag that is no byte is refused only
    after the result has been written. -/
def store (i : Int) (r : Flagged) : Action Registers Flagged := do
  write i r.value
  write flagIndex r.flag
  return r

/-- The bits set in either register. -/
def or (a b : Int) : Action Registers UInt8 :=
  return (← read a) ||| (← read b)

/-- The bits set in both registers. -/
def and (a b : Int) : Action Registers UInt8 :=
  return (← read a) &&& (← read b)

/-- The bits set in exactly one register. -/
def xor (a b : Int) : Action Registers UInt8 :=
  return (← read a) ^^^ (← read b)

/-- `Va := Va + Vb`, flagged on a carry. -/
def add (a b : Int) : Action Registers Flagged := do
  let va ← read a
  let vb ← read b
  store a (.add (Bytes.toInt va) (Bytes.toInt vb))

/-- `Va := Va - Vb`, flagged when `Va` is the greater. -/
def sub (a b : Int) : Action Registers Flagged := do
  let va ← read a
  let vb ← read b
  store a (.sub (Bytes.toInt va) (Bytes.toInt vb))

/-- `Va := Vb - Va`, flagged when `Vb` is the greater. `Vb` is read first. -/
def subReverse (a b : Int) : Action Registers Flagged := do
  let vb ← read b
  let va ← read a
  store a (.sub (Bytes.toInt vb) (Bytes.toInt va))

/-- Halve a register. -/
def shiftRight (i : Int) : Action Registers Flagged := do
  store i (.shiftRight (Bytes.toInt (← read i)))

/-- Double a register. -/
def shiftLeft (i : Int) : Action Registers Flagged := do
  store i (.shiftLeft (Bytes.toInt (← read i)))

/-- The values of V0 to the given register. -/
def dump (last : Int) : Action Registers (List UInt8) := do
  check last
  return ((← get).cells.toArray.extract 0 (last.toNat + 1)).toList

/-- The registers with the first ones replaced by `bytes`. -/
def fill (r : Registers) (bytes : List UInt8) : Registers :=
  ⟨Vector.ofFn fun j => bytes.getD j.val (r.cells.get j)⟩

/-- Fill V0 to the given register. The number is looked at first, then the
    bytes, then how many there are. -/
def load (last : Int) (data : List Int) : Action Registers Unit := do
  check last
  let bytes ← Action.lift (Bytes.ofInts data)
  Action.check (bytes.length = last.toNat + 1)
    (.misuse (.registerCount (last.toNat + 1) bytes.length))
  modify (·.fill bytes)

end Registers

end Chip8
