import Chip8.Proofs.Instruction.Listed
import Chip8.Proofs.Registers
import Chip8.Screen
import Mathlib.Data.Finset.Max
import Mathlib.Data.Finset.SymmDiff
import Mathlib.Data.Fintype.Prod
import Mathlib.Data.Int.Bitwise

/-!
# The Ideal Machine

The machine as its instruction table describes it, out of mathematical objects:
memory and registers are functions, the screen and the keypad are sets, the
stack is a list, and numbers are integers that are reduced where the table says
so.

The machine is not made to be run. It says what an instruction does to a state
as a whole, in one expression each, so that there is something to hold the
running machine against. Random numbers come from a sequence that is fixed
beforehand; a state knows how many of them have been used.

An effect may be undefined: the ideal machine does not say what happens after
an access outside memory or an unbalanced call.

## Main definitions

* `Ideal`: The states.
* `Ideal.effect`: What an instruction does to a state.
* `Ideal.Next`: The successors of a state.

## Theorems

* `Ideal.Next.unique`: There is at most one.
-/

namespace Chip8

/-- The states of the ideal machine. -/
structure Ideal where
  memory : Fin 4096 → Fin 256
  pc : Int
  index : Int
  registers : Nibble → Fin 256
  /-- The return addresses, latest first. -/
  stack : List Int
  stack_le : stack.length ≤ 16
  /-- The pixels that are lit. -/
  screen : Finset Screen.Pixel
  /-- The keys that are held. -/
  keys : Finset Nibble
  delay : Int
  sound : Int
  /-- How many random numbers have been used. -/
  draws : Nat
  /-- Whether every instruction ticks the timers. -/
  ticksByCycle : Bool

namespace Ideal

/-- A remainder is a byte, which makes the byte of any integer well-formed. -/
theorem byte_lt (v : Int) : (v % 256).toNat < 256 := by
  omega

/-- A number modulo 256. -/
def byte (v : Int) : Fin 256 :=
  ⟨(v % 256).toNat, byte_lt v⟩

/-- The same for cells. -/
theorem address_lt (a : Int) : (a % 4096).toNat < 4096 := by
  omega

/-- The cell of an address. Addresses outside memory come round, but none is
    ever asked for. -/
def address (a : Int) : Fin 4096 :=
  ⟨(a % 4096).toNat, address_lt a⟩

/-- The value of a register. -/
def value (s : Ideal) (x : Nibble) : Int :=
  (s.registers x).val

/-- The word at the program counter. -/
def word (s : Ideal) : Int :=
  256 * (s.memory (address s.pc)).val + (s.memory (address (s.pc + 1))).val

/-! ### Changes -/

/-- The state with a number in a register, modulo 256. -/
def put (s : Ideal) (x : Nibble) (v : Int) : Ideal :=
  { s with registers := Function.update s.registers x (byte v) }

/-- The state with a truth value in VF. -/
def flag (s : Ideal) (p : Prop) [Decidable p] : Ideal :=
  s.put Registers.VF (if p then 1 else 0)

/-- The state past the next word. -/
def passed (s : Ideal) : Ideal :=
  { s with pc := s.pc + 2 }

/-- The state past the next word if `p` holds. -/
def skipIf (s : Ideal) (p : Prop) [Decidable p] : Ideal :=
  if p then s.passed else s

/-- The state at an address, which has to lie inside memory. -/
def goto (s : Ideal) (a : Int) : Option Ideal :=
  if 0 ≤ a ∧ a < 4096 then some { s with pc := a } else none

/-- A block of `n` cells at the index register lies inside memory. An empty
    one still has to start there. -/
def HasBlock (s : Ideal) (n : Nat) : Prop :=
  0 ≤ s.index ∧ s.index < 4096 ∧ s.index + n ≤ 4096

instance (s : Ideal) (n : Nat) : Decidable (s.HasBlock n) :=
  inferInstanceAs (Decidable (_ ∧ _ ∧ _))

/-- The state with a block written at the index register, its cells numbered
    from zero. -/
def store (s : Ideal) (n : Nat) (f : Nat → Int) : Option Ideal :=
  if s.HasBlock n then
    some { s with
      memory := fun k =>
        if s.index ≤ k.val ∧ k.val < s.index + n then byte (f (k.val - s.index).toNat)
        else s.memory k }
  else none

/-- The pixels of the set bits of the `n` rows at the index register, drawn at
    `(Vx, Vy)` on the torus. -/
def sprite (s : Ideal) (x y n : Nibble) : Finset Screen.Pixel :=
  (Finset.univ.filter fun p : Fin n.val × Fin 8 =>
    (s.memory (address (s.index + p.1.val))).val.testBit (7 - p.2.val)).image
      fun p => Screen.Pixel.wrap (s.value y + p.1.val) (s.value x + p.2.val)

/-- The state after one tick. -/
def tick (s : Ideal) : Ideal :=
  if s.ticksByCycle = true then
    { s with delay := max 0 (s.delay - 1), sound := max 0 (s.sound - 1) }
  else s

theorem tail_le (s : Ideal) : s.stack.tail.length ≤ 16 := by
  have hle := s.stack_le
  rw [List.length_tail]
  omega

/-! ### Instructions -/

/-- What an instruction does to a state that is past it already, with the
    random numbers to come. -/
def effect (numbers : Nat → Int) : Instruction → Ideal → Option Ideal
  | .clear, s => some { s with screen := ∅ }
  | .ret, s =>
    match s.stack.head? with
    | some a =>
      goto { s with
        stack := s.stack.tail
        stack_le := s.tail_le } a
    | none => none
  | .jump a, s => s.goto a.val
  | .call a, s =>
    if h : s.stack.length < 16 then
      goto { s with stack := s.pc :: s.stack, stack_le := h } a.val
    else none
  | .jumpFrom a, s => s.goto (s.value Registers.V0 + a.val)
  | .skipIs x kk, s => some (s.skipIf (s.value x = kk.val))
  | .skipIsNot x kk, s => some (s.skipIf (s.value x ≠ kk.val))
  | .skipSame x y, s => some (s.skipIf (s.value x = s.value y))
  | .skipDiffer x y, s => some (s.skipIf (s.value x ≠ s.value y))
  | .skipHeld x, s => some (s.skipIf (Word.n (s.value x) ∈ s.keys))
  | .skipFree x, s => some (s.skipIf (Word.n (s.value x) ∉ s.keys))
  | .set x kk, s => some (s.put x kk.val)
  | .increase x kk, s => some (s.put x (s.value x + kk.val))
  | .copy x y, s => some (s.put x (s.value y))
  | .or x y, s => some (s.put x (Int.lor (s.value x) (s.value y)))
  | .and x y, s => some (s.put x (Int.land (s.value x) (s.value y)))
  | .xor x y, s => some (s.put x (Int.xor (s.value x) (s.value y)))
  | .add x y, s =>
    some ((s.put x (s.value x + s.value y)).flag (255 < s.value x + s.value y))
  | .sub x y, s => some ((s.put x (s.value x - s.value y)).flag (s.value y < s.value x))
  | .subReverse x y, s =>
    some ((s.put x (s.value y - s.value x)).flag (s.value x < s.value y))
  | .shiftRight x, s => some ((s.put x (s.value x / 2)).flag (s.value x % 2 = 1))
  | .shiftLeft x, s => some ((s.put x (s.value x * 2)).flag (128 ≤ s.value x))
  | .random x kk, s =>
    some ({ s with draws := s.draws + 1 }.put x (Int.land (numbers s.draws) kk.val))
  | .setIndex a, s => some { s with index := a.val }
  | .draw x y n, s =>
    if s.HasBlock n.val then
      some ({ s with screen := symmDiff s.screen (s.sprite x y n) }.flag
        (s.screen ∩ s.sprite x y n).Nonempty)
    else none
  | .getDelay x, s => some (s.put x s.delay)
  | .awaitKey x, s =>
    if h : s.keys.Nonempty then some (s.put x (s.keys.min' h).val)
    else some { s with pc := s.pc - 2 }
  | .setDelay x, s => some { s with delay := s.value x }
  | .setSound x, s => some { s with sound := s.value x }
  | .addIndex x, s => some { s with index := (s.index + s.value x) % 65536 }
  | .pointGlyph x, s => some { s with index := 0x50 + 5 * (s.value x % 16) }
  | .decimal x, s => s.store 3 fun j => s.value x / 10 ^ (2 - j) % 10
  | .save x, s => s.store (x.val + 1) fun j => s.value (Word.n j)
  | .restore x, s =>
    if s.HasBlock (x.val + 1) then
      some { s with
        registers := fun r =>
          if r ≤ x then s.memory (address (s.index + r.val)) else s.registers r }
    else none
  | .unknown _, s => some s

/-! ### Steps -/

/-- The successors of a state. A word that no instruction has is passed by. -/
inductive Next (numbers : Nat → Int) (s : Ideal) : Ideal → Prop
  | listed {i : Instruction} {t : Ideal} (hpc : 0 ≤ s.pc ∧ s.pc < 4095) (hl : Listed s.word i)
    (ht : effect numbers i s.passed = some t) : Next numbers s t.tick
  | unlisted (hpc : 0 ≤ s.pc ∧ s.pc < 4095) (hno : ∀ i, ¬ Listed s.word i) :
    Next numbers s s.passed.tick

/-- A word is of one instruction at most. -/
theorem listed_unique {w : Int} {i j : Instruction} (hi : Listed w i) (hj : Listed w j) : i = j :=
  (Instruction.decode_of_listed hi).symm.trans (Instruction.decode_of_listed hj)

/-- There is at most one successor. -/
theorem Next.unique {numbers : Nat → Int} {s a b : Ideal} (ha : Next numbers s a)
    (hb : Next numbers s b) : a = b := by
  cases ha with
  | listed _ hl ht =>
      cases hb with
      | listed _ hl' ht' =>
          rw [listed_unique hl hl', ht'] at ht
          rw [Option.some.inj ht]
      | unlisted _ hno => exact absurd hl (hno _)
  | unlisted _ hno =>
      cases hb with
      | listed _ hl' _ => exact absurd hl' (hno _)
      | unlisted _ _ => rfl

end Ideal

end Chip8
