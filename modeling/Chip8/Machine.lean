import Chip8.CallStack
import Chip8.Keypad
import Chip8.Memory
import Chip8.Random
import Chip8.Registers
import Chip8.Screen

/-!
# The Machine

The components of the machine, what each action on a component does to the
whole, and the moves of the two cursors.

The cursors and timers are integers without a range of their own. Running
programs keep them in bounds; whoever sets them by hand may not.

## Main definitions

* `Machine`: The components.
* `Machine.initial`: A machine at power on.
* `Machine.loadProgram`: A program image put into memory.
* `Machine.fetch`, `Machine.jump`, `Machine.advance`, `Machine.retreat`: The
  program counter's moves.
* `Machine.pointGlyph`, `Machine.storeDecimal`: What depends on the index
  register alone.
-/

namespace Chip8

/-- The components of the machine, drawing from a source of type `ρ`. -/
structure Machine (ρ : Type) where
  memory : Memory
  /-- The program counter. -/
  pc : Int
  /-- The index register I. -/
  index : Int
  registers : Registers
  stack : CallStack
  screen : Screen
  keypad : Keypad
  random : ρ
  delay : Int
  sound : Int
  /-- Whether every completed cycle ticks the timers. -/
  ticksByCycle : Bool
  /-- How many cycles have completed. -/
  cycles : Nat
  /-- The word of the last completed cycle. -/
  lastWord : Option Int

namespace Machine

variable {ρ : Type}

/-- A machine at power on. -/
def initial (random : ρ) (ticksByCycle : Bool) : Machine ρ where
  memory := .initial
  pc := Memory.programStart
  index := 0
  registers := .initial
  stack := .initial
  screen := .dark
  keypad := .released
  random := random
  delay := 0
  sound := 0
  ticksByCycle := ticksByCycle
  cycles := 0
  lastWord := none

/-! ### Actions on components -/

/-- An action on memory. -/
@[inline]
def onMemory {α : Type} (a : Action Memory α) : Action (Machine ρ) α :=
  a.on memory fun m x => { m with memory := x }

/-- An action on the registers. -/
@[inline]
def onRegisters {α : Type} (a : Action Registers α) : Action (Machine ρ) α :=
  a.on registers fun m x => { m with registers := x }

/-- An action on the call stack. -/
@[inline]
def onStack {α : Type} (a : Action CallStack α) : Action (Machine ρ) α :=
  a.on stack fun m x => { m with stack := x }

/-- An action on the screen. -/
@[inline]
def onScreen {α : Type} (a : Action Screen α) : Action (Machine ρ) α :=
  a.on screen fun m x => { m with screen := x }

/-- An action on the keypad. -/
@[inline]
def onKeypad {α : Type} (a : Action Keypad α) : Action (Machine ρ) α :=
  a.on keypad fun m x => { m with keypad := x }

/-! ### Cursors -/

/-- Go to an address. -/
def jump (a : Int) : Action (Machine ρ) Unit := do
  Memory.check a
  modify fun m => { m with pc := a }

/-- Move the program counter forward. Where it comes to lie is looked at by
    the next fetch. -/
def advance (n : Int) : Action (Machine ρ) Unit :=
  modify fun m => { m with pc := m.pc + n }

/-- Move the program counter back, but not below zero. -/
def retreat (n : Int) : Action (Machine ρ) Unit := do
  let pc := (← get).pc
  Action.check (0 ≤ pc - n) (.retreat pc n)
  modify fun m => { m with pc := pc - n }

/-- Read the word at the program counter, its high byte first, and move past
    it. -/
def fetch : Action (Machine ρ) Int := do
  let pc := (← get).pc
  let high ← onMemory (Memory.read pc)
  let low ← onMemory (Memory.read (pc + 1))
  advance 2
  return 256 * Bytes.toInt high + Bytes.toInt low

/-- Point the index register at the glyph of the lower digit of a value. -/
def pointGlyph (v : Int) : Action (Machine ρ) Unit :=
  modify fun m => { m with index := Memory.glyphStart + Memory.glyphHeight * (v % 16) }

/-- The hundreds, tens and ones of a value. -/
def decimalDigits (v : Int) : List Int :=
  [v / 100, v / 10 % 10, v % 10]

/-- Write the decimal digits of a value at the index register. -/
def storeDecimal (v : Int) : Action (Machine ρ) Unit := do
  onMemory (Memory.writeRange (← get).index (decimalDigits v))

/-! ### Programs -/

/-- Load a program image. -/
def loadProgram (image : List Int) : Action (Machine ρ) Unit :=
  onMemory (Memory.load image)

end Machine

end Chip8
