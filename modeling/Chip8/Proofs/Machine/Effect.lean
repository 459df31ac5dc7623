import Chip8.Machine.Execute
import Chip8.Proofs.CallStack
import Chip8.Proofs.Memory
import Chip8.Proofs.Registers
import Mathlib.Algebra.Group.Int.Defs

/-!
# Effects in Closed Form

The effect of an instruction, taken apart into what can stand in its way and
what it does where nothing does.

An effect is a chain of accesses, each of which could be refused as far as its
type tells. Followed through, almost none can be: the digits of an instruction
are indices of registers, the lower digit of a register is a key, and what is
written to a register is reduced to a byte first. What is left is a short list
of obstacles, all of which are met before the first change. The one exception
is a return, which has dropped its address by the time the address turns out
to lie outside memory.

`effect_eq` says that the two halves make up the whole. Everything after it
argues about the halves, which are plain functions on machines.

## Main definitions

* `Machine.value`, `Machine.assign`: The value of a register, and a register
  given a value.
* `Machine.obstacle`: What stands in the way of an effect.
* `Machine.applied`: The machine after an effect with nothing in its way.
* `Machine.abandoned`: The machine after an effect that was refused.

## Theorems

* `Machine.value_assign`: What a register holds after an assignment.
* `Machine.blockObstacle_eq_none_iff`: When a block fits.
* `Machine.effect_eq`: An effect is refused by its obstacle or applied.
-/

namespace Chip8

namespace Machine

variable {ρ : Type}

/-! ### Registers -/

/-- The value of a register. -/
def value (m : Machine ρ) (x : Nibble) : Int :=
  Bytes.toInt (m.registers.cell x.val)

/-- The machine with a register given a value. -/
def assign (m : Machine ρ) (x : Nibble) (v : Int) : Machine ρ :=
  { m with registers := m.registers.put x.val (Bytes.ofInt v) }

theorem isByte_value (m : Machine ρ) (x : Nibble) : Bytes.IsByte (m.value x) :=
  Bytes.isByte_toInt _

theorem value_assign (m : Machine ρ) (x y : Nibble) {v : Int} (hv : Bytes.IsByte v) :
    (m.assign x v).value y = if x = y then v else m.value y :=
  m.registers.value_put x y hv

/-- The registers that an instruction can name are all there. -/
theorem run_register (x : Nibble) (m : Machine ρ) :
    register x.val m = .ok (m.value x) m := by
  unfold register onRegisters
  rw [Action.run_bind, Action.run_on, Registers.read_ok (Registers.isIndex_nibble x)]
  rfl

theorem run_register_zero (m : Machine ρ) : register 0 m = .ok (m.value Registers.V0) m :=
  run_register Registers.V0 m

theorem run_setRegister (x : Nibble) {v : Int} (hv : Bytes.IsByte v) (m : Machine ρ) :
    setRegister x.val v m = .ok () (m.assign x v) := by
  unfold setRegister onRegisters
  rw [Action.run_on, Registers.write_ok (Registers.isIndex_nibble x) hv]
  rfl

/-- What is no byte cannot, and the instruction that has brought it about is a misuse. -/
theorem run_setRegister_misuse (x : Nibble) {v : Int} (hv : ¬ Bytes.IsByte v) (m : Machine ρ) :
    setRegister x.val v m = .error (.misuse (.register v)) m := by
  unfold setRegister onRegisters
  rw [Action.run_on, Registers.write_misuse (Registers.isIndex_nibble x) hv]

/-! ### The two halves of an effect -/

/-- The machine past the next instruction if `p` holds. -/
def skipWhen (m : Machine ρ) (p : Prop) [Decidable p] : Machine ρ :=
  if p then { m with pc := m.pc + 2 } else m

/-- The machine with a result in a register and its flag in VF. The flag is
    written last. -/
def assignFlagged (m : Machine ρ) (x : Nibble) (r : Flagged) : Machine ρ :=
  (m.assign x r.value).assign Registers.VF r.flag

/-- Whether the key that a register names is held. -/
def keyHeld (m : Machine ρ) (x : Nibble) : Bool :=
  m.keypad.isHeld (Word.n (m.value x))

/-- The sprite of `n` rows at the index register. -/
def sprite (m : Machine ρ) (n : Nat) : List Int :=
  (m.memory.slice m.index.toNat n).map Bytes.toInt

/-- The machine with bytes laid down at the index register. -/
def laid (m : Machine ρ) (bytes : List UInt8) : Machine ρ :=
  { m with memory := m.memory.place m.index.toNat bytes }

/-- What stands in the way of reading or writing a block at the index
    register, for the fault of a block that runs past the end. -/
def blockObstacle (m : Machine ρ) (n : Nat) (past : Fault) : Option Fault :=
  if Memory.IsAddress m.index then
    if m.index + n ≤ 4096 then none else some past
  else some (.address m.index)

/-- What stands in the way of going to an address. -/
def jumpObstacle (a : Int) : Option Fault :=
  if Memory.IsAddress a then none else some (.address a)

/-- What stands in the way of the effect of an instruction. -/
def obstacle : Instruction → Machine ρ → Option Fault
  | .ret, m =>
    match m.stack.live.getLast? with
    | some a => jumpObstacle a
    | none => some .stackUnderflow
  | .call _, m => if m.stack.depth < 16 then none else some (.stackOverflow m.pc)
  | .jumpFrom a, m => jumpObstacle (m.value Registers.V0 + a.val)
  | .draw _ _ n, m => m.blockObstacle n.val (.readPastEnd m.index (m.index + n.val))
  | .getDelay _, m =>
    if Bytes.IsByte m.delay then none else some (.misuse (.register m.delay))
  | .awaitKey _, m =>
    match m.keypad.lowest with
    | some _ => none
    | none => if m.pc < 2 then some (.retreat m.pc 2) else none
  | .decimal _, m => m.blockObstacle 3 (.writePastEnd m.index 3)
  | .save x, m => m.blockObstacle (x.val + 1) (.writePastEnd m.index (x.val + 1))
  | .restore x, m =>
    m.blockObstacle (x.val + 1) (.readPastEnd m.index (m.index + x.val + 1))
  | _, _ => none

/-- The machine after the effect of an instruction that nothing stands in the
    way of. -/
def applied [Source ρ] : Instruction → Machine ρ → Machine ρ
  | .clear, m => { m with screen := .dark }
  | .ret, m => { m with stack := m.stack.dropTop, pc := m.stack.live.getLast?.getD 0 }
  | .jump a, m => { m with pc := a.val }
  | .call a, m => { m with stack := m.stack.push m.pc, pc := a.val }
  | .jumpFrom a, m => { m with pc := m.value Registers.V0 + a.val }
  | .skipIs x kk, m => m.skipWhen (m.value x = kk.val)
  | .skipIsNot x kk, m => m.skipWhen (m.value x ≠ kk.val)
  | .skipSame x y, m => m.skipWhen (m.value x = m.value y)
  | .skipDiffer x y, m => m.skipWhen (m.value x ≠ m.value y)
  | .skipHeld x, m => m.skipWhen (m.keyHeld x = true)
  | .skipFree x, m => m.skipWhen (m.keyHeld x = false)
  | .set x kk, m => m.assign x kk.val
  | .increase x kk, m => m.assign x ((m.value x + kk.val) % 256)
  | .copy x y, m => m.assign x (m.value y)
  | .or x y, m =>
    m.assign x (Bytes.toInt (m.registers.cell x.val ||| m.registers.cell y.val))
  | .and x y, m =>
    m.assign x (Bytes.toInt (m.registers.cell x.val &&& m.registers.cell y.val))
  | .xor x y, m =>
    m.assign x (Bytes.toInt (m.registers.cell x.val ^^^ m.registers.cell y.val))
  | .add x y, m => m.assignFlagged x (.add (m.value x) (m.value y))
  | .sub x y, m => m.assignFlagged x (.sub (m.value x) (m.value y))
  | .subReverse x y, m => m.assignFlagged x (.sub (m.value y) (m.value x))
  | .shiftRight x, m => m.assignFlagged x (.shiftRight (m.value x))
  | .shiftLeft x, m => m.assignFlagged x (.shiftLeft (m.value x))
  | .random x kk, m =>
    { m with random := (Source.next m.random).2 }.assign x (maskByte (Source.next m.random).1 kk)
  | .setIndex a, m => { m with index := a.val }
  | .draw x y n, m =>
    let drawn := m.screen.draw (m.value x) (m.value y) (m.sprite n.val)
    { m with screen := drawn.1 }.assign Registers.VF (Flagged.bit (drawn.2 = true))
  | .getDelay x, m => m.assign x m.delay
  | .awaitKey x, m =>
    match m.keypad.lowest with
    | some k => m.assign x k.val
    | none => { m with pc := m.pc - 2 }
  | .setDelay x, m => { m with delay := m.value x }
  | .setSound x, m => { m with sound := m.value x }
  | .addIndex x, m => { m with index := (m.index + m.value x) % 65536 }
  | .pointGlyph x, m => { m with index := 80 + 5 * (m.value x % 16) }
  | .decimal x, m => m.laid ((decimalDigits (m.value x)).map Bytes.ofInt)
  | .save x, m => m.laid (m.registers.upTo x.val)
  | .restore x, m =>
    { m with registers := m.registers.fill (m.memory.slice m.index.toNat (x.val + 1)) }
  | .unknown _, m => m

/-- The machine after the effect of an instruction that was refused. -/
def abandoned : Instruction → Machine ρ → Machine ρ
  | .ret, m => { m with stack := m.stack.dropTop }
  | _, m => m

/-- A block of cells has to begin and end in memory. -/
theorem blockObstacle_eq_none_iff (m : Machine ρ) (n : Nat) (past : Fault) :
    m.blockObstacle n past = none ↔ Memory.IsAddress m.index ∧ m.index + n ≤ 4096 := by
  unfold blockObstacle
  by_cases hs : Memory.IsAddress m.index
  · rw [if_pos hs, and_iff_right hs]
    by_cases he : m.index + n ≤ 4096
    · rw [if_pos he]
      exact iff_of_true rfl he
    · rw [if_neg he]
      exact iff_of_false (Option.some_ne_none _) he
  · rw [if_neg hs]
    exact iff_of_false (Option.some_ne_none _) fun h => hs h.1

/-! ### Running the parts -/

/-- A skip never fails. -/
theorem run_skipIf (p : Prop) [Decidable p] (m : Machine ρ) :
    skipIf p m = .ok () (m.skipWhen p) := by
  unfold skipIf skipWhen
  by_cases h : p
  · rw [if_pos h, if_pos h]
    rfl
  · rw [if_neg h, if_neg h]
    rfl

/-- A jump fails for what stands in its way and for nothing else. -/
theorem run_jump (a : Int) (m : Machine ρ) :
    Machine.jump a m =
      match jumpObstacle a with
      | none => .ok () { m with pc := a }
      | some f => .error f m := by
  unfold Machine.jump Memory.check jumpObstacle
  rw [Action.run_bind]
  by_cases h : Memory.IsAddress a
  · rw [Action.run_check_pos h, if_pos h]
    rfl
  · rw [Action.run_check_neg h, if_neg h]

/-- A block is read at the index, or the reading fails before it begins. -/
theorem run_readBlock (m : Machine ρ) (n : Nat) :
    onMemory (Memory.readRange m.index (m.index + n)) m =
      match m.blockObstacle n (.readPastEnd m.index (m.index + n)) with
      | none => .ok (m.memory.slice m.index.toNat n) m
      | some f => .error f m := by
  unfold onMemory blockObstacle
  rw [Action.run_on, Memory.readRange_eq]
  by_cases hs : Memory.IsAddress m.index
  · rw [if_pos hs, if_pos hs]
    by_cases he : m.index + n ≤ 4096
    · rw [if_pos he, if_pos he]
    · rw [if_neg he, if_neg he]
  · rw [if_neg hs, if_neg hs]

/-- A block is laid down at the index, or memory stays as it is. -/
theorem run_writeBlock (m : Machine ρ) (bytes : List UInt8) :
    onMemory (Memory.writeBytes m.index bytes) m =
      match m.blockObstacle bytes.length (.writePastEnd m.index bytes.length) with
      | none => .ok () (m.laid bytes)
      | some f => .error f m := by
  unfold onMemory blockObstacle
  rw [Action.run_on, Memory.writeBytes_eq]
  by_cases hs : Memory.IsAddress m.index
  · rw [if_pos hs, if_pos hs]
    by_cases he : m.index + bytes.length ≤ 4096
    · rw [if_pos he, if_pos he]
      rfl
    · rw [if_neg he, if_neg he]
  · rw [if_neg hs, if_neg hs]

/-- Operations with a flag read what they combine and store result and flag, both of which
    are bytes. -/
theorem run_flagged {a : Action Registers Flagged} {x : Nibble} {res : Flagged} (m : Machine ρ)
    (ha : a m.registers = Registers.store x.val res m.registers) (hv : Bytes.IsByte res.value)
    (hf : Bytes.IsByte res.flag) :
    (discard (onRegisters a) : Action (Machine ρ) Unit) m = .ok () (m.assignFlagged x res) := by
  unfold onRegisters
  rw [Action.run_discard, Action.run_on, ha,
    Registers.store_ok (Registers.isIndex_nibble x) hv hf]
  rfl

/-- Operations that combine two registers bit by bit write the byte that they are left with. -/
theorem run_bitwise {a : Action Registers UInt8} (x : Nibble) {b : UInt8} (m : Machine ρ)
    (ha : a m.registers = .ok b m.registers) :
    (do setRegister x.val (Bytes.toInt (← onRegisters a)) : Action (Machine ρ) Unit) m =
      .ok () (m.assign x (Bytes.toInt b)) := by
  unfold onRegisters
  rw [Action.run_bind, Action.run_on, ha]
  exact run_setRegister x (Bytes.isByte_toInt b) m

/-- A key is asked for by the low digit of a register, so that there always is one. -/
theorem run_keyOf (x : Nibble) (m : Machine ρ) : keyOf x.val m = .ok (m.keyHeld x) m := by
  have hkey : 0 ≤ m.value x % 16 ∧ m.value x % 16 < 16 := by omega
  unfold keyOf onKeypad
  rw [Action.run_bind, run_register]
  simp only []
  rw [Action.run_on]
  unfold Keypad.isPressed
  rw [dif_pos hkey]
  rfl

theorem isByte_maskByte (v : Int) (kk : Immediate) : Bytes.IsByte (maskByte v kk) := by
  have hle : (v % 256).toNat &&& kk.val ≤ kk.val := Nat.and_le_right
  have hlt := kk.isLt
  unfold Bytes.IsByte maskByte
  omega

theorem isByte_decimalDigits {v : Int} (h : Bytes.IsByte v) :
    ∀ d ∈ decimalDigits v, Bytes.IsByte d := by
  intro d hd
  unfold decimalDigits at hd
  simp only [List.mem_cons, List.not_mem_nil, or_false] at hd
  unfold Bytes.IsByte at *
  omega

/-- The digits of a byte. Its hundreds are a digit with or without taking them modulo ten. -/
theorem toInt_digit {v : Int} (hv : Bytes.IsByte v) {j : Nat} (hj : j < 3) :
    Bytes.toInt (((decimalDigits v).map Bytes.ofInt).getD j 0) = v / 10 ^ (2 - j) % 10 := by
  have hdigit : ∀ d : Int, 0 ≤ d → d < 10 → Bytes.toInt (Bytes.ofInt d) = d := by
    intro d hlow hhigh
    exact Bytes.toInt_ofInt ⟨hlow, by omega⟩
  unfold Bytes.IsByte at hv
  rcases (by omega : j = 0 ∨ j = 1 ∨ j = 2) with rfl | rfl | rfl
  · refine (hdigit (v / 100) (by omega) (by omega)).trans ?_
    change v / 100 = v / 100 % 10
    omega
  · exact hdigit (v / 10 % 10) (by omega) (by omega)
  · refine (hdigit (v % 10) (by omega) (by omega)).trans ?_
    change v % 10 = v / 1 % 10
    rw [Int.ediv_one]

theorem isAddress_target (a : Target) : Memory.IsAddress (a.val : Int) := by
  have := a.isLt
  unfold Memory.IsAddress Memory.size
  omega

/-- A sprite is read first. If that fails, the screen and the flag stay as they are. -/
theorem run_drawSprite (x y n : Nibble) (m : Machine ρ) :
    drawSprite x.val y.val n.val m =
      match m.blockObstacle n.val (.readPastEnd m.index (m.index + n.val)) with
      | none =>
        let drawn := m.screen.draw (m.value x) (m.value y) (m.sprite n.val)
        .ok () ({ m with screen := drawn.1 }.assign Registers.VF (Flagged.bit (drawn.2 = true)))
      | some f => .error f m := by
  unfold drawSprite
  rw [Action.run_bind, Action.run_get]
  simp only []
  rw [Action.run_bind, run_readBlock]
  cases hob : m.blockObstacle n.val (.readPastEnd m.index (m.index + n.val)) with
  | some f => rfl
  | none =>
      simp only []
      rw [Action.run_bind, run_register]
      simp only []
      rw [Action.run_bind, run_register]
      simp only []
      rw [Action.run_bind, Action.run_modifyGet]
      exact run_setRegister Registers.VF (Bytes.isByte_bit _) _

/-- The registers are laid down all at once. -/
theorem run_save (x : Nibble) (m : Machine ρ) :
    Machine.save x.val m =
      match m.blockObstacle (x.val + 1) (.writePastEnd m.index (x.val + 1)) with
      | none => .ok () (m.laid (m.registers.upTo x.val))
      | some f => .error f m := by
  unfold Machine.save
  rw [Action.run_bind, Action.run_get]
  simp only []
  rw [Action.run_bind]
  unfold onRegisters
  rw [Action.run_on, Registers.dump_ok (Registers.isIndex_nibble x)]
  simp only [Int.toNat_natCast]
  rw [run_writeBlock, Registers.length_upTo]

/-- The registers are filled after all cells are read. -/
theorem run_restore (x : Nibble) (m : Machine ρ) :
    Machine.restore x.val m =
      match m.blockObstacle (x.val + 1) (.readPastEnd m.index (m.index + x.val + 1)) with
      | none =>
        .ok () { m with registers := m.registers.fill (m.memory.slice m.index.toNat (x.val + 1)) }
      | some f => .error f m := by
  unfold Machine.restore
  rw [Action.run_bind, Action.run_get]
  simp only []
  have hstop : m.index + (x.val : Int) + 1 = m.index + ((x.val + 1 : Nat) : Int) := by omega
  rw [Action.run_bind, hstop, run_readBlock]
  cases hob : m.blockObstacle (x.val + 1) (.readPastEnd m.index (m.index + (x.val + 1 : Nat))) with
  | some f => rfl
  | none =>
      have hbytes : ∀ v ∈ (m.memory.slice m.index.toNat (x.val + 1)).map Bytes.toInt,
          Bytes.IsByte v := by
        intro v hv
        rcases List.mem_map.mp hv with ⟨b, -, rfl⟩
        exact Bytes.isByte_toInt b
      simp only []
      unfold onRegisters
      rw [Action.run_on, Registers.load_ok (Registers.isIndex_nibble x) hbytes
        (by rw [List.length_map, Memory.length_slice, Int.toNat_natCast]), List.map_map]
      have hback : m.memory.slice m.index.toNat (x.val + 1) =
          (m.memory.slice m.index.toNat (x.val + 1)).map (Bytes.ofInt ∘ Bytes.toInt) := by
        rw [show Bytes.ofInt ∘ Bytes.toInt = id from funext Bytes.ofInt_toInt, List.map_id]
      rw [← hback]

/-- The three digits are laid down at once. -/
theorem run_storeDecimal {v : Int} (hv : Bytes.IsByte v) (m : Machine ρ) :
    storeDecimal v m =
      match m.blockObstacle 3 (.writePastEnd m.index 3) with
      | none => .ok () (m.laid ((decimalDigits v).map Bytes.ofInt))
      | some f => .error f m := by
  have hwrite : Memory.writeRange m.index (decimalDigits v) =
      Memory.writeBytes m.index ((decimalDigits v).map Bytes.ofInt) :=
    funext fun mem => Memory.writeRange_eq mem m.index (isByte_decimalDigits hv)
  have hlen : ((decimalDigits v).map Bytes.ofInt).length = 3 := rfl
  unfold storeDecimal
  rw [Action.run_bind, Action.run_get]
  simp only []
  rw [hwrite, run_writeBlock, hlen]

/-- A return takes its address from the stack before it is known where that leads, so
    that the address is gone even if the jump fails. -/
theorem run_ret (m : Machine ρ) :
    (do Machine.jump (← onStack CallStack.pop) : Action (Machine ρ) Unit) m =
      match m.stack.live.getLast? with
      | none => .error .stackUnderflow m
      | some a =>
        match jumpObstacle a with
        | none => .ok () { m with stack := m.stack.dropTop, pc := a }
        | some f => .error f { m with stack := m.stack.dropTop } := by
  unfold onStack
  rw [Action.run_bind, Action.run_on, CallStack.pop_eq]
  cases m.stack.live.getLast? with
  | none => rfl
  | some a => exact run_jump a _

/-- A call puts its return address down first, and its jump cannot fail. -/
theorem run_call (m : Machine ρ) (a : Target) :
    (do onStack (CallStack.call (← get).pc)
        Machine.jump a.val : Action (Machine ρ) Unit) m =
      if m.stack.depth < 16 then .ok () { m with stack := m.stack.push m.pc, pc := a.val }
      else .error (.stackOverflow m.pc) m := by
  unfold onStack
  rw [Action.run_bind, Action.run_get]
  simp only []
  rw [Action.run_bind, Action.run_on, CallStack.call_eq]
  by_cases h : m.stack.depth < 16
  · rw [if_pos h, if_pos h]
    simp only []
    rw [run_jump, jumpObstacle, if_pos (isAddress_target a)]
  · rw [if_neg h, if_neg h]

/-- A wait goes back by a word if no key is held. -/
theorem run_awaitKey (x : Nibble) (m : Machine ρ) :
    Machine.awaitKey x.val m =
      match m.keypad.lowest with
      | some k => .ok () (m.assign x k.val)
      | none =>
        if m.pc < 2 then .error (.retreat m.pc 2) m else .ok () { m with pc := m.pc - 2 } := by
  unfold Machine.awaitKey
  rw [Action.run_bind, Action.run_get]
  simp only []
  cases m.keypad.lowest with
  | some k => exact run_setRegister x (Bytes.isByte_nibble k) m
  | none =>
      simp only []
      unfold retreat
      rw [Action.run_bind, Action.run_get]
      simp only []
      rw [Action.run_bind]
      by_cases h : m.pc < 2
      · rw [Action.run_check_neg (by omega), if_pos h]
      · rw [Action.run_check_pos (by omega), if_neg h]
        rfl

/-- A jump to an address of an instruction never fails. -/
theorem run_jumpTarget (a : Target) (m : Machine ρ) :
    Machine.jump a.val m = .ok () { m with pc := a.val } := by
  rw [run_jump, jumpObstacle, if_pos (isAddress_target a)]

/-! ### The whole effect -/

/-- An effect is refused by what stands in its way, or applied. -/
theorem effect_eq [Source ρ] (i : Instruction) (m : Machine ρ) :
    effect i m =
      match obstacle i m with
      | none => .ok () (applied i m)
      | some f => .error f (abandoned i m) := by
  cases i with
  | clear => rfl
  | ret =>
      simp only [effect, obstacle, applied, abandoned]
      rw [run_ret]
      cases hlast : m.stack.live.getLast? with
      | none => rw [CallStack.dropTop_of_live_eq_nil (List.getLast?_eq_none_iff.mp hlast)]
      | some a => cases jumpObstacle a <;> rfl
  | jump a => exact run_jumpTarget a m
  | call a =>
      simp only [effect, obstacle]
      rw [run_call]
      by_cases h : m.stack.depth < 16
      · rw [if_pos h, if_pos h]
        rfl
      · rw [if_neg h, if_neg h]
        rfl
  | jumpFrom a =>
      rw [effect, obstacle]
      rw [Action.run_bind, run_register_zero]
      simp only []
      rw [run_jump]
      cases jumpObstacle (m.value Registers.V0 + a.val) <;> rfl
  | skipIs x kk =>
      simp only [effect, obstacle]
      rw [Action.run_bind, run_register]
      exact run_skipIf _ m
  | skipIsNot x kk =>
      simp only [effect, obstacle]
      rw [Action.run_bind, run_register]
      exact run_skipIf _ m
  | skipSame x y =>
      simp only [effect, obstacle]
      rw [Action.run_bind, run_register]
      simp only []
      rw [Action.run_bind, run_register]
      exact run_skipIf _ m
  | skipDiffer x y =>
      simp only [effect, obstacle]
      rw [Action.run_bind, run_register]
      simp only []
      rw [Action.run_bind, run_register]
      exact run_skipIf _ m
  | skipHeld x =>
      simp only [effect, obstacle]
      rw [Action.run_bind, run_keyOf]
      exact run_skipIf _ m
  | skipFree x =>
      simp only [effect, obstacle]
      rw [Action.run_bind, run_keyOf]
      exact run_skipIf _ m
  | set x kk => exact run_setRegister x (Bytes.isByte_immediate kk) m
  | increase x kk =>
      simp only [effect, obstacle]
      rw [Action.run_bind, run_register]
      exact run_setRegister x (Bytes.isByte_mod _) m
  | copy x y =>
      simp only [effect, obstacle]
      rw [Action.run_bind, run_register]
      exact run_setRegister x (m.isByte_value y) m
  | or x y =>
      exact run_bitwise x m
        (Registers.or_ok (Registers.isIndex_nibble x) (Registers.isIndex_nibble y) _)
  | and x y =>
      exact run_bitwise x m
        (Registers.and_ok (Registers.isIndex_nibble x) (Registers.isIndex_nibble y) _)
  | xor x y =>
      exact run_bitwise x m
        (Registers.xor_ok (Registers.isIndex_nibble x) (Registers.isIndex_nibble y) _)
  | add x y =>
      exact run_flagged m
        (Registers.add_eq (Registers.isIndex_nibble x) (Registers.isIndex_nibble y) _)
        (Flagged.isByte_add _ _).1 (Flagged.isByte_add _ _).2
  | sub x y =>
      exact run_flagged m
        (Registers.sub_eq (Registers.isIndex_nibble x) (Registers.isIndex_nibble y) _)
        (Flagged.isByte_sub _ _).1 (Flagged.isByte_sub _ _).2
  | subReverse x y =>
      exact run_flagged m
        (Registers.subReverse_eq (Registers.isIndex_nibble x) (Registers.isIndex_nibble y) _)
        (Flagged.isByte_sub _ _).1 (Flagged.isByte_sub _ _).2
  | shiftRight x =>
      exact run_flagged m (Registers.shiftRight_eq (Registers.isIndex_nibble x) _)
        (Flagged.isByte_shiftRight (m.isByte_value x)).1
        (Flagged.isByte_shiftRight (m.isByte_value x)).2
  | shiftLeft x =>
      exact run_flagged m (Registers.shiftLeft_eq (Registers.isIndex_nibble x) _)
        (Flagged.isByte_shiftLeft _).1 (Flagged.isByte_shiftLeft _).2
  | random x kk =>
      simp only [effect, obstacle, drawRandom]
      rw [Action.run_bind, Action.run_modifyGet]
      exact run_setRegister x (isByte_maskByte _ kk) _
  | setIndex a => rfl
  | draw x y n =>
      simp only [effect, obstacle]
      rw [run_drawSprite]
      cases m.blockObstacle n.val (.readPastEnd m.index (m.index + n.val)) <;> rfl
  | getDelay x =>
      simp only [effect, obstacle]
      rw [Action.run_bind, Action.run_get]
      simp only []
      by_cases h : Bytes.IsByte m.delay
      · rw [if_pos h]
        exact run_setRegister x h m
      · rw [if_neg h]
        exact run_setRegister_misuse x h m
  | awaitKey x =>
      simp only [effect, obstacle, applied]
      rw [run_awaitKey]
      cases m.keypad.lowest with
      | some k => rfl
      | none =>
          simp only []
          by_cases h : m.pc < 2
          · rw [if_pos h, if_pos h]
            rfl
          · rw [if_neg h, if_neg h]
  | setDelay x =>
      simp only [effect, obstacle]
      rw [Action.run_bind, run_register]
      rfl
  | setSound x =>
      simp only [effect, obstacle]
      rw [Action.run_bind, run_register]
      rfl
  | addIndex x =>
      simp only [effect, obstacle]
      rw [Action.run_bind, run_register]
      rfl
  | pointGlyph x =>
      simp only [effect, obstacle]
      rw [Action.run_bind, run_register]
      rfl
  | decimal x =>
      simp only [effect, obstacle]
      rw [Action.run_bind, run_register]
      simp only []
      rw [run_storeDecimal (m.isByte_value x)]
      cases m.blockObstacle 3 (.writePastEnd m.index 3) <;> rfl
  | save x =>
      simp only [effect, obstacle]
      rw [run_save]
      cases m.blockObstacle (x.val + 1) (.writePastEnd m.index (x.val + 1)) <;> rfl
  | restore x =>
      simp only [effect, obstacle]
      rw [run_restore]
      cases m.blockObstacle (x.val + 1) (.readPastEnd m.index (m.index + x.val + 1)) <;> rfl
  | unknown w => rfl

end Machine

end Chip8
