import Chip8.Numeral.Padded

/-!
# Faults

The causes for which an action on the machine is refused, and their wording.

A fault of the machine (a program that does not fit, an unbalanced return, an
address outside memory) is what a running program can bring about, and it
halts the program. A misuse is a value that no program can produce, handed in
by whoever drives the machine by hand.

## Main definitions

* `Misuse`: A value outside the range that its place admits.
* `Fault`: Any refusal, with the data that its message names.
* `Fault.message`: The wording.
* `Fault.halts`: Whether the refusal is one that a program can bring about.
-/

namespace Chip8

/-- A value that its place does not admit. -/
inductive Misuse where
  /-- A memory cell was given something other than a byte. -/
  | cell (value : Int)
  /-- A register was given something other than a byte. -/
  | register (value : Int)
  /-- A range ends before it starts. -/
  | reversedRange (start stop : Int)
  /-- A block of registers was given the wrong number of bytes. -/
  | registerCount (expected got : Nat)
  /-- A list meant as bytes holds a number that is none. -/
  | notBytes
  deriving DecidableEq, Repr

/-- Why an action was refused. -/
inductive Fault where
  /-- The program image is longer than the room above the start address. -/
  | programTooLarge (size : Nat)
  /-- A call with all sixteen levels in use. -/
  | stackOverflow (pushing : Int)
  /-- A return without a call. -/
  | stackUnderflow
  /-- An address outside memory. -/
  | address (a : Int)
  /-- The program counter would become negative. -/
  | retreat (pc n : Int)
  /-- A block to read runs past the end of memory. -/
  | readPastEnd (start stop : Int)
  /-- A block to write runs past the end of memory. -/
  | writePastEnd (start : Int) (count : Nat)
  /-- A position outside the screen. -/
  | pixel (row col : Int)
  /-- A register other than V0 to VF. -/
  | registerIndex (i : Int)
  /-- A key other than 0 to F. -/
  | keyIndex (k : Int)
  /-- A value that its place does not admit. -/
  | misuse (m : Misuse)
  deriving DecidableEq, Repr

/-- The wording of a misuse. -/
def Misuse.message : Misuse → String
  | .cell v => s!"Data {v} is not an 8-bit value."
  | .register v => s!"Value {v} is not an 8-bit value."
  | .reversedRange s e =>
    s!"Invalid range: end {Padded.address e} precedes start {Padded.address s}."
  | .registerCount expected got => s!"Expected {expected} bytes, got {got}."
  | .notBytes => "bytes must be in range(0, 256)"

/-- The wording of a fault. -/
def Fault.message : Fault → String
  | .programTooLarge n => s!"Program of {n} bytes exceeds capacity of 3584 bytes."
  | .stackOverflow a =>
    s!"Call stack overflow: depth 16 exceeded (pushing {Padded.address a})."
  | .stackUnderflow => "Call stack underflow: return without matching call."
  | .address a => s!"Address {Padded.address a} out of bounds for memory of size 4096."
  | .retreat pc n => s!"Cannot retreat program counter {Padded.address pc} by {n}."
  | .readPastEnd s e =>
    s!"Range {Padded.address s}-{Padded.address e} exceeds memory of size 4096."
  | .writePastEnd s n =>
    s!"Write of {n} bytes at {Padded.address s} exceeds memory of size 4096."
  | .pixel row col => s!"Pixel ({row}, {col}) out of bounds for 64x32 display."
  | .registerIndex i => s!"Register index {i} out of range (0-15)."
  | .keyIndex k => s!"Key index {k} out of range (0-15)."
  | .misuse m => m.message

/-- Whether a program can bring the fault about, so that it halts the program.
    A misuse is a mistake of the driver and does not. -/
def Fault.halts : Fault → Bool
  | .misuse _ => false
  | _ => true

end Chip8
