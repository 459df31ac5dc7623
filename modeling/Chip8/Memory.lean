import Chip8.Action
import Chip8.Bytes

/-!
# Memory

The 4096 bytes of the machine. Programs start at `0x200`; the glyphs of the
sixteen hexadecimal digits lie at `0x50`, five bytes each, of which the upper
four bits are drawn.

Addresses come in as integers of any size and sign. No access wraps: an
address outside memory is refused before anything is read or written, so a
block is written whole or not at all.

## Main definitions

* `Memory`: The cells.
* `Memory.initial`: Zeros and the glyphs.
* `Memory.place`: Bytes laid over the cells from an address on.
* `Memory.read`, `Memory.readRange`: One cell; a half-open range.
* `Memory.write`, `Memory.writeBytes`, `Memory.writeRange`: One cell; a block.
* `Memory.load`: A program image.
-/

namespace Chip8

/-- The cells of memory. -/
structure Memory where
  cells : Vector UInt8 4096
  deriving DecidableEq

namespace Memory

/-- The number of cells. -/
def size : Nat := 4096

/-- Where programs start. -/
def programStart : Nat := 0x200

/-- The longest program: all that lies above the start. -/
def capacity : Nat := size - programStart

/-- Where the glyphs start. -/
def glyphStart : Nat := 0x50

/-- The bytes of one glyph. -/
def glyphHeight : Nat := 5

/-- The glyphs of the digits 0 to F, one digit a line. -/
def glyphs : List UInt8 :=
  [0xF0, 0x90, 0x90, 0x90, 0xF0,
   0x20, 0x60, 0x20, 0x20, 0x70,
   0xF0, 0x10, 0xF0, 0x80, 0xF0,
   0xF0, 0x10, 0xF0, 0x10, 0xF0,
   0x90, 0x90, 0xF0, 0x10, 0x10,
   0xF0, 0x80, 0xF0, 0x10, 0xF0,
   0xF0, 0x80, 0xF0, 0x90, 0xF0,
   0xF0, 0x10, 0x20, 0x40, 0x40,
   0xF0, 0x90, 0xF0, 0x90, 0xF0,
   0xF0, 0x90, 0xF0, 0x10, 0xF0,
   0xF0, 0x90, 0xF0, 0x90, 0x90,
   0xE0, 0x90, 0xE0, 0x90, 0xE0,
   0xF0, 0x80, 0x80, 0x80, 0xF0,
   0xE0, 0x90, 0x90, 0x90, 0xE0,
   0xF0, 0x80, 0xF0, 0x80, 0xF0,
   0xF0, 0x80, 0xF0, 0x80, 0x80]

/-- The cells with `bytes` laid over them from `start` on. What would lie past
    the last cell is dropped; the checked writes never let it come to that. -/
def place (m : Memory) (start : Nat) : List UInt8 → Memory
  | [] => m
  | b :: bs => place ⟨m.cells.setIfInBounds start b⟩ (start + 1) bs

/-- Memory before a program is loaded. -/
def initial : Memory :=
  place ⟨Vector.replicate 4096 0⟩ glyphStart glyphs

/-- The cell at an address, zero outside memory. -/
def cell (m : Memory) (a : Nat) : UInt8 :=
  m.cells[a]?.getD 0

/-- The addresses of cells. -/
def IsAddress (a : Int) : Prop :=
  0 ≤ a ∧ a < size

instance (a : Int) : Decidable (IsAddress a) :=
  inferInstanceAs (Decidable (_ ∧ _))

/-- Refuse an address outside memory. -/
def check {σ : Type} (a : Int) : Action σ Unit :=
  Action.check (IsAddress a) (.address a)

/-- The byte at an address. -/
def read (a : Int) : Action Memory UInt8 := do
  check a
  return (← get).cell a.toNat

/-- Write one byte. The address is looked at before the value. -/
def write (a v : Int) : Action Memory Unit := do
  check a
  Action.check (Bytes.IsByte v) (.misuse (.cell v))
  modify fun m => m.place a.toNat [Bytes.ofInt v]

/-- The bytes of the half-open range from `start` to `stop`. An empty range
    still has to start inside memory. -/
def readRange (start stop : Int) : Action Memory (List UInt8) := do
  Action.check (start ≤ stop) (.misuse (.reversedRange start stop))
  check start
  Action.check (stop ≤ size) (.readPastEnd start stop)
  return ((← get).cells.toArray.extract start.toNat stop.toNat).toList

/-- Write a block of bytes. Nothing is written unless all of them fit; an
    empty block still has to start inside memory. -/
def writeBytes (start : Int) (bytes : List UInt8) : Action Memory Unit := do
  check start
  Action.check (start + bytes.length ≤ size) (.writePastEnd start bytes.length)
  modify fun m => m.place start.toNat bytes

/-- Write a block of integers that have to be bytes, which is looked at before
    the address. -/
def writeRange (start : Int) (data : List Int) : Action Memory Unit := do
  writeBytes start (← Action.lift (Bytes.ofInts data))

/-- Load a program image at the start address. The length is looked at before
    the bytes. Cells behind the image keep what they held. -/
def load (image : List Int) : Action Memory Unit := do
  Action.check (image.length ≤ capacity) (.programTooLarge image.length)
  let bytes ← Action.lift (Bytes.ofInts image)
  modify fun m => m.place programStart bytes

end Memory

end Chip8
