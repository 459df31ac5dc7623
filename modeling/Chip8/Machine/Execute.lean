import Chip8.Instruction.Decode
import Chip8.Machine
import Chip8.Notice

/-!
# Execution

The effect of each instruction. The program counter has already moved past the
instruction when it takes effect, so a skip adds two, a wait takes two off,
and a fault leaves it two further than the instruction.

Every effect that can be refused makes its tests before its first change, with
one exception: a return drops the return address before it goes there.

## Main definitions

* `Machine.effect`: The effect of an instruction.
* `Machine.remark`: What is reported of an instruction.
* `Machine.execute`: Both.
-/

namespace Chip8

namespace Machine

variable {ρ : Type}

/-- The value of a register. -/
def register (i : Int) : Action (Machine ρ) Int := do
  return Bytes.toInt (← onRegisters (Registers.read i))

/-- Write a register. -/
def setRegister (i v : Int) : Action (Machine ρ) Unit :=
  onRegisters (Registers.write i v)

/-- Skip the next instruction if `p` holds. -/
def skipIf (p : Prop) [Decidable p] : Action (Machine ρ) Unit :=
  if p then advance 2 else pure ()

/-- Draw from the source. -/
def drawRandom [Source ρ] : Action (Machine ρ) Int :=
  modifyGet fun m =>
    let (v, s) := Source.next m.random
    (v, { m with random := s })

/-- The bits that two integers have in common, for a second one that is a
    byte. -/
def maskByte (v : Int) (kk : Immediate) : Int :=
  ((v % 256).toNat &&& kk.val : Nat)

/-- Whether the key that a register names is held. Only the lower digit of the
    register counts. -/
def keyOf (x : Int) : Action (Machine ρ) Bool := do
  onKeypad (Keypad.isPressed ((← register x) % 16))

/-- Draw the sprite at the index register. -/
def drawSprite (x y n : Int) : Action (Machine ρ) Unit := do
  let start := (← get).index
  let sprite ← onMemory (Memory.readRange start (start + n))
  let col ← register x
  let row ← register y
  let hit ← modifyGet fun m =>
    let (s, hit) := m.screen.draw col row (sprite.map Bytes.toInt)
    (hit, { m with screen := s })
  setRegister Registers.flagIndex (Flagged.bit (hit = true))

/-- Put the lowest key held into a register, or go back to wait for one. -/
def awaitKey (x : Int) : Action (Machine ρ) Unit := do
  match (← get).keypad.lowest with
  | some k => setRegister x k.val
  | none => retreat 2

/-- Write the registers up to `x` at the index register. -/
def save (x : Int) : Action (Machine ρ) Unit := do
  let start := (← get).index
  onMemory (Memory.writeBytes start (← onRegisters (Registers.dump x)))

/-- Read the registers up to `x` from the index register. -/
def restore (x : Int) : Action (Machine ρ) Unit := do
  let start := (← get).index
  let bytes ← onMemory (Memory.readRange start (start + x + 1))
  onRegisters (Registers.load x (bytes.map Bytes.toInt))

/-- The effect of an instruction. What is no instruction has none. -/
def effect [Source ρ] : Instruction → Action (Machine ρ) Unit
  | .clear => modify fun m => { m with screen := .dark }
  | .ret => do Machine.jump (← onStack CallStack.pop)
  | .jump a => Machine.jump a.val
  | .call a => do
    onStack (CallStack.call (← get).pc)
    Machine.jump a.val
  | .jumpFrom a => do Machine.jump ((← register 0) + a.val)
  | .skipIs x kk => do skipIf ((← register x.val) = kk.val)
  | .skipIsNot x kk => do skipIf ((← register x.val) ≠ kk.val)
  | .skipSame x y => do skipIf ((← register x.val) = (← register y.val))
  | .skipDiffer x y => do skipIf ((← register x.val) ≠ (← register y.val))
  | .skipHeld x => do skipIf ((← keyOf x.val) = true)
  | .skipFree x => do skipIf ((← keyOf x.val) = false)
  | .set x kk => setRegister x.val kk.val
  | .increase x kk => do setRegister x.val (((← register x.val) + kk.val) % 256)
  | .copy x y => do setRegister x.val (← register y.val)
  | .or x y => do setRegister x.val (Bytes.toInt (← onRegisters (Registers.or x.val y.val)))
  | .and x y => do setRegister x.val (Bytes.toInt (← onRegisters (Registers.and x.val y.val)))
  | .xor x y => do setRegister x.val (Bytes.toInt (← onRegisters (Registers.xor x.val y.val)))
  | .add x y => discard (onRegisters (Registers.add x.val y.val))
  | .sub x y => discard (onRegisters (Registers.sub x.val y.val))
  | .subReverse x y => discard (onRegisters (Registers.subReverse x.val y.val))
  | .shiftRight x => discard (onRegisters (Registers.shiftRight x.val))
  | .shiftLeft x => discard (onRegisters (Registers.shiftLeft x.val))
  | .random x kk => do setRegister x.val (maskByte (← drawRandom) kk)
  | .setIndex a => modify fun m => { m with index := a.val }
  | .draw x y n => drawSprite x.val y.val n.val
  | .getDelay x => do setRegister x.val (← get).delay
  | .awaitKey x => Machine.awaitKey x.val
  | .setDelay x => do
    let v ← register x.val
    modify fun m => { m with delay := v }
  | .setSound x => do
    let v ← register x.val
    modify fun m => { m with sound := v }
  | .addIndex x => do
    let v ← register x.val
    modify fun m => { m with index := (m.index + v) % 65536 }
  | .pointGlyph x => do Machine.pointGlyph (← register x.val)
  | .decimal x => do storeDecimal (← register x.val)
  | .save x => Machine.save x.val
  | .restore x => Machine.restore x.val
  | .unknown _ => pure ()

/-- What is reported of an instruction about to take effect: a word that is
    none, with the address that it came from. -/
def remark (m : Machine ρ) : Instruction → Option Notice
  | .unknown w => some (.skipped w ((m.pc - 2) % 65536))
  | _ => none

/-- Let an instruction take effect, and report on it. -/
def execute [Source ρ] (i : Instruction) : Action (Machine ρ) (Option Notice) := do
  let notice := (← get).remark i
  effect i
  return notice

end Machine

end Chip8
