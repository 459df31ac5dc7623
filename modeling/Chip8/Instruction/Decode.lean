import Chip8.Instruction

/-!
# Decoding

A word is decoded by a table whose rows each test some of its bits. No word
passes the test of two rows, so the order of the rows does not matter.

## Main definitions

* `Row`: A test and the reading of the words that pass it.
* `rows`: The table.
* `Instruction.decode`: The instruction of a word.
-/

namespace Chip8

/-- The lower sixteen bits of a word. -/
def Word.low (w : Int) : Nat :=
  (w % 65536).toNat

/-- One row of the decoding table: the bits that are tested, what they have to
    be, and how the words that pass are read. -/
structure Row where
  mask : Nat
  bits : Nat
  read : Int → Instruction

/-- Whether a word passes the test of a row. -/
def Row.accepts (r : Row) (w : Int) : Bool :=
  Word.low w &&& r.mask == r.bits

namespace Instruction

open Word in
/-- The decoding table. -/
def rows : List Row :=
  [⟨0xFFFF, 0x00E0, fun _ => clear⟩,
   ⟨0xFFFF, 0x00EE, fun _ => ret⟩,
   ⟨0xF000, 0x1000, fun w => jump (nnn w)⟩,
   ⟨0xF000, 0x2000, fun w => call (nnn w)⟩,
   ⟨0xF000, 0x3000, fun w => skipIs (x w) (kk w)⟩,
   ⟨0xF000, 0x4000, fun w => skipIsNot (x w) (kk w)⟩,
   ⟨0xF00F, 0x5000, fun w => skipSame (x w) (y w)⟩,
   ⟨0xF000, 0x6000, fun w => set (x w) (kk w)⟩,
   ⟨0xF000, 0x7000, fun w => increase (x w) (kk w)⟩,
   ⟨0xF00F, 0x8000, fun w => copy (x w) (y w)⟩,
   ⟨0xF00F, 0x8001, fun w => or (x w) (y w)⟩,
   ⟨0xF00F, 0x8002, fun w => and (x w) (y w)⟩,
   ⟨0xF00F, 0x8003, fun w => xor (x w) (y w)⟩,
   ⟨0xF00F, 0x8004, fun w => add (x w) (y w)⟩,
   ⟨0xF00F, 0x8005, fun w => sub (x w) (y w)⟩,
   ⟨0xF00F, 0x8006, fun w => shiftRight (x w)⟩,
   ⟨0xF00F, 0x8007, fun w => subReverse (x w) (y w)⟩,
   ⟨0xF00F, 0x800E, fun w => shiftLeft (x w)⟩,
   ⟨0xF00F, 0x9000, fun w => skipDiffer (x w) (y w)⟩,
   ⟨0xF000, 0xA000, fun w => setIndex (nnn w)⟩,
   ⟨0xF000, 0xB000, fun w => jumpFrom (nnn w)⟩,
   ⟨0xF000, 0xC000, fun w => random (x w) (kk w)⟩,
   ⟨0xF000, 0xD000, fun w => draw (x w) (y w) (n w)⟩,
   ⟨0xF0FF, 0xE09E, fun w => skipHeld (x w)⟩,
   ⟨0xF0FF, 0xE0A1, fun w => skipFree (x w)⟩,
   ⟨0xF0FF, 0xF007, fun w => getDelay (x w)⟩,
   ⟨0xF0FF, 0xF00A, fun w => awaitKey (x w)⟩,
   ⟨0xF0FF, 0xF015, fun w => setDelay (x w)⟩,
   ⟨0xF0FF, 0xF018, fun w => setSound (x w)⟩,
   ⟨0xF0FF, 0xF01E, fun w => addIndex (x w)⟩,
   ⟨0xF0FF, 0xF029, fun w => pointGlyph (x w)⟩,
   ⟨0xF0FF, 0xF033, fun w => decimal (x w)⟩,
   ⟨0xF0FF, 0xF055, fun w => save (x w)⟩,
   ⟨0xF0FF, 0xF065, fun w => restore (x w)⟩]

/-- The instruction of a word: the reading of the row that accepts it. -/
def decode (w : Int) : Instruction :=
  match rows.find? (·.accepts w) with
  | some r => r.read w
  | none => unknown w

end Instruction

end Chip8
