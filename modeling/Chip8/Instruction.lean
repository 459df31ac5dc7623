/-!
# Instructions

The instruction set: thirty-four instructions and the words that are none.
An instruction carries its operands and nothing else, so two words that differ
only where their instruction does not look are the same instruction.

## Main definitions

* `Word.x`, `Word.y`, `Word.n`, `Word.kk`, `Word.nnn`: The fields of a word,
  for integers of any size and sign.
* `Instruction`: What a word can ask of the machine.
-/

namespace Chip8

/-- The number of a register, or a digit. -/
abbrev Nibble := Fin 16

/-- A byte that an instruction carries. -/
abbrev Immediate := Fin 256

/-- An address that an instruction carries. -/
abbrev Target := Fin 4096

namespace Word

/-- The second digit. Only the lower sixteen bits of a word count; those of a
    negative integer are taken in two's complement. -/
def x (w : Int) : Nibble :=
  ⟨(w / 256 % 16).toNat, by omega⟩

/-- The third digit. -/
def y (w : Int) : Nibble :=
  ⟨(w / 16 % 16).toNat, by omega⟩

/-- The last digit. -/
def n (w : Int) : Nibble :=
  ⟨(w % 16).toNat, by omega⟩

/-- The lower byte. -/
def kk (w : Int) : Immediate :=
  ⟨(w % 256).toNat, by omega⟩

/-- The lower three digits. -/
def nnn (w : Int) : Target :=
  ⟨(w % 4096).toNat, by omega⟩

/-- The two bytes of a word. -/
def bytes (w : Int) : List Int :=
  [w / 256 % 256, w % 256]

end Word

/-- What a word can ask of the machine. -/
inductive Instruction where
  /-- Darken the screen. -/
  | clear
  /-- Return from a subroutine. -/
  | ret
  /-- Go to an address. -/
  | jump (target : Target)
  /-- Call a subroutine. -/
  | call (target : Target)
  /-- Skip the next instruction if `Vx` is `kk`. -/
  | skipIs (x : Nibble) (kk : Immediate)
  /-- Skip the next instruction if `Vx` is not `kk`. -/
  | skipIsNot (x : Nibble) (kk : Immediate)
  /-- Skip the next instruction if `Vx` and `Vy` agree. -/
  | skipSame (x y : Nibble)
  /-- `Vx := kk`. -/
  | set (x : Nibble) (kk : Immediate)
  /-- `Vx := Vx + kk` modulo 256, without a flag. -/
  | increase (x : Nibble) (kk : Immediate)
  /-- `Vx := Vy`. -/
  | copy (x y : Nibble)
  /-- `Vx := Vx or Vy`. -/
  | or (x y : Nibble)
  /-- `Vx := Vx and Vy`. -/
  | and (x y : Nibble)
  /-- `Vx := Vx xor Vy`. -/
  | xor (x y : Nibble)
  /-- `Vx := Vx + Vy` with the carry in VF. -/
  | add (x y : Nibble)
  /-- `Vx := Vx - Vy` with `Vx > Vy` in VF. -/
  | sub (x y : Nibble)
  /-- Halve `Vx`, with the bit that falls out in VF. -/
  | shiftRight (x : Nibble)
  /-- `Vx := Vy - Vx` with `Vy > Vx` in VF. -/
  | subReverse (x y : Nibble)
  /-- Double `Vx`, with the bit that falls out in VF. -/
  | shiftLeft (x : Nibble)
  /-- Skip the next instruction if `Vx` and `Vy` differ. -/
  | skipDiffer (x y : Nibble)
  /-- `I := nnn`. -/
  | setIndex (target : Target)
  /-- Go to `V0 + nnn`. -/
  | jumpFrom (target : Target)
  /-- `Vx := random and kk`. -/
  | random (x : Nibble) (kk : Immediate)
  /-- Draw the `n` rows at `I` at `(Vx, Vy)`, with the collision in VF. -/
  | draw (x y n : Nibble)
  /-- Skip the next instruction if the key of `Vx` is held. -/
  | skipHeld (x : Nibble)
  /-- Skip the next instruction if the key of `Vx` is not held. -/
  | skipFree (x : Nibble)
  /-- `Vx :=` the delay timer. -/
  | getDelay (x : Nibble)
  /-- Wait for a key, then put the lowest one held into `Vx`. -/
  | awaitKey (x : Nibble)
  /-- The delay timer `:= Vx`. -/
  | setDelay (x : Nibble)
  /-- The sound timer `:= Vx`. -/
  | setSound (x : Nibble)
  /-- `I := I + Vx` modulo 65536. -/
  | addIndex (x : Nibble)
  /-- `I :=` the glyph of the lower digit of `Vx`. -/
  | pointGlyph (x : Nibble)
  /-- Write the three decimal digits of `Vx` at `I`. -/
  | decimal (x : Nibble)
  /-- Write V0 to `Vx` at `I`. -/
  | save (x : Nibble)
  /-- Read V0 to `Vx` from `I`. -/
  | restore (x : Nibble)
  /-- No instruction. The word is kept as it was given. -/
  | unknown (word : Int)
  deriving DecidableEq, Repr

end Chip8
