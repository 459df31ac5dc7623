import Chip8.Proofs.Machine.Course

/-!
# Stores

What memory holds after a run is what was stored there last.

Two instructions write memory, the digits of a register and a row of registers,
both at the index register. A cycle that completes with one of them stores into
each cell of its block, and no other step stores anything: not the other
instructions, not a store that is refused, and not what happens between the
cycles. So the content of a cell is told by the moments of a run that store into
it, and of those by the last. Where there is none, the cell holds what it held
when the program had been loaded.

## Main definitions

* `Machine.Moment.stored`: What is stored into a cell at a moment.

## Theorems

* `Machine.cell_laid`: What a cell holds after a block has been laid down.
* `Machine.Moment.stored_eq_none`: Most moments store nothing.
* `Machine.Moment.cell_next`: What a cell holds after a step.
* `Machine.cell_afterAll`: What a cell holds after a script.
* `Machine.last_store_stays`: The same from the start of a program.
-/

namespace Chip8

namespace Machine

variable {ρ : Type}

/-- A block at the index register that fits. -/
theorem cell_laid {m : Machine ρ} {bytes : List UInt8} {past : Fault}
    (hob : m.blockObstacle bytes.length past = none) {a : Nat} (ha : a < 4096) :
    (m.laid bytes).memory.cell a =
      if m.index ≤ a ∧ a < m.index + bytes.length then bytes.getD (a - m.index).toNat 0
      else m.memory.cell a := by
  have hlow : 0 ≤ m.index := ((blockObstacle_eq_none_iff m _ _).mp hob).1.1
  change (m.memory.place m.index.toNat bytes).cell a = _
  rw [Memory.cell_place _ _ _ ha]
  by_cases hin : m.index ≤ a ∧ a < m.index + bytes.length
  · rw [if_pos hin, if_pos (by omega), show (a - m.index).toNat = a - m.index.toNat by omega]
  · rw [if_neg hin, if_neg (by omega)]

variable [Source ρ]

/-- What the two instructions that store make of a cell, inside and outside their blocks. -/
theorem cell_decimal {m : Machine ρ} {x : Nibble} (hob : obstacle (.decimal x) m = none) {a : Nat}
    (ha : a < 4096) :
    Bytes.toInt ((applied (.decimal x) m).memory.cell a) =
      if m.index ≤ a ∧ a ≤ m.index + 2 then
        m.value x / 10 ^ (2 - (a - m.index).toNat) % 10
      else Bytes.toInt (m.memory.cell a) := by
  have hfits : m.blockObstacle ((decimalDigits (m.value x)).map Bytes.ofInt).length _ = none := hob
  rw [applied, cell_laid hfits ha]
  change Bytes.toInt (if m.index ≤ a ∧ a < m.index + 3 then _ else _) = _
  by_cases hin : m.index ≤ a ∧ a ≤ m.index + 2
  · rw [if_pos (by omega), if_pos hin, toInt_digit (m.isByte_value x) (by omega)]
  · rw [if_neg (by omega), if_neg hin]

/-- A cell of the row that is saved holds the register of its distance from the index. -/
theorem cell_save {m : Machine ρ} {x : Nibble} (hob : obstacle (.save x) m = none) {a : Nat}
    (ha : a < 4096) :
    Bytes.toInt ((applied (.save x) m).memory.cell a) =
      if m.index ≤ a ∧ a ≤ m.index + x.val then m.value (Word.n (a - m.index))
      else Bytes.toInt (m.memory.cell a) := by
  have hx := x.isLt
  have hlen := Registers.length_upTo m.registers x.val
  rw [obstacle, ← hlen] at hob
  rw [applied, cell_laid hob ha, hlen]
  by_cases hin : m.index ≤ a ∧ a ≤ m.index + x.val
  · have hlt : (a - m.index).toNat < (m.registers.upTo x.val).length := by omega
    have hword : (Word.n (a - m.index) : Nibble).val = (a - m.index).toNat := by
      have := Word.val_n (a - m.index)
      omega
    rw [if_pos (by omega), if_pos hin, List.getD_eq_getElem _ _ hlt]
    unfold value
    rw [hword]
    simp only [Registers.upTo, List.getElem_map, List.getElem_range]
  · rw [if_neg (by omega), if_neg hin]

namespace Moment

/-- What is stored into a cell: a digit of a register or a register, if one of
    the two instructions that store is executed and its block covers the
    cell. -/
def stored (t : Moment ρ) (a : Nat) : Option Int :=
  match t.executed with
  | some (.decimal x) =>
    if t.machine.index ≤ a ∧ a ≤ t.machine.index + 2 then
      some (t.machine.value x / 10 ^ (2 - (a - t.machine.index).toNat) % 10)
    else none
  | some (.save x) =>
    if t.machine.index ≤ a ∧ a ≤ t.machine.index + x.val then
      some (t.machine.value (Word.n (a - t.machine.index)))
    else none
  | _ => none

/-- Nothing is stored unless an instruction is executed that writes memory. -/
theorem stored_eq_none {t : Moment ρ} (h : ∀ i, t.executed = some i → i.writesMemory = false)
    (a : Nat) : t.stored a = none := by
  unfold stored
  cases hexec : t.executed with
  | none => rfl
  | some i =>
      have hi := h i hexec
      cases i with
      | decimal x => cases hi
      | save x => cases hi
      | _ => rfl

/-- A step changes the cells that it stores into and no others, unless it loads
    a program. -/
theorem cell_next {t : Moment ρ} (hload : ∀ image, t.step ≠ .load image) {a : Nat}
    (ha : a < 4096) :
    Bytes.toInt (t.next.memory.cell a) =
      (t.stored a).getD (Bytes.toInt (t.machine.memory.cell a)) := by
  by_cases hnone : ∀ i, t.executed = some i → i.writesMemory = false
  · rw [stored_eq_none hnone a, (keeps_next t).memory hload hnone]
    rfl
  · -- A store has passed its test, so its block lies inside memory.
    rcases not_forall.mp hnone with ⟨i, hi⟩
    rcases Classical.not_imp.mp hi with ⟨hexec, hwrites⟩
    rcases (executed_eq_some_iff t i).mp hexec with ⟨-, -, -, hob⟩
    have heffect : t.next.memory = (applied i t.machine.passed).memory := by
      rw [next_of_executed hexec, complete_eq]
    unfold stored
    rw [hexec, heffect]
    cases i with
    | decimal x =>
        rw [cell_decimal hob ha]
        simp only []
        rw [apply_ite (Option.getD · _)]
        rfl
    | save x =>
        rw [cell_save hob ha]
        simp only []
        rw [apply_ite (Option.getD · _)]
        rfl
    | _ => exact absurd rfl hwrites

end Moment

/-- A cell holds what was stored into it last, and otherwise what it held
    before. -/
theorem cell_afterAll (m : Machine ρ) (script : List Step) (hload : ∀ image, .load image ∉ script)
    {a : Nat} (ha : a < 4096) :
    Bytes.toInt ((m.afterAll script).memory.cell a) =
      ((m.course script).filterMap (Moment.stored · a)).getLast?.getD
        (Bytes.toInt (m.memory.cell a)) := by
  induction script generalizing m with
  | nil => rfl
  | cons s script ih =>
      -- What is stored in the rest of the script comes later, and where nothing is,
      -- the cell is left as the first step has left it.
      have hfirst : ∀ image, s ≠ .load image := by
        rintro image rfl
        exact hload image List.mem_cons_self
      have hrest := ih (m.after s) fun image h => hload image (List.mem_cons_of_mem s h)
      have hstep := Moment.cell_next (t := ⟨m, s⟩) hfirst ha
      rw [afterAll_cons, hrest, course, List.filterMap_cons]
      change Bytes.toInt ((m.after s).memory.cell a) = _ at hstep
      rw [hstep]
      cases Moment.stored ⟨m, s⟩ a with
      | none => rfl
      | some v =>
          rw [List.getLast?_cons]
          rfl

omit [Source ρ] in
-- A program that has been loaded was made of bytes.
theorem memory_of_loaded {m m' : Machine ρ} {image : List Int}
    (hok : loadProgram image m = .ok () m') :
    (∀ v ∈ image, Bytes.IsByte v) ∧
      m'.memory = m.memory.place Memory.programStart (image.map Bytes.ofInt) := by
  unfold loadProgram onMemory at hok
  rw [Action.run_on] at hok
  cases hload : Memory.load image m.memory with
  | error f mem =>
      rw [hload] at hok
      cases hok
  | ok u mem =>
      rw [hload] at hok
      cases hok
      exact (Memory.load_eq_ok hload).2

/-- From the start of a program, a cell holds what was stored into it last, and
    if nothing was, its byte of the program or of a glyph, or zero. The glyphs
    stay as they are as long as nothing is stored over them. -/
theorem last_store_stays {random : ρ} {ticksByCycle : Bool} {image : List Int} {m : Machine ρ}
    (hok : loadProgram image (initial random ticksByCycle) = .ok () m) (script : List Step)
    (hload : ∀ other, .load other ∉ script) :
    (∀ a < 4096, Bytes.toInt ((m.afterAll script).memory.cell a) =
      ((m.course script).filterMap (Moment.stored · a)).getLast?.getD (Memory.origin image a)) ∧
    ((∀ t ∈ m.course script, ∀ a, 0x50 ≤ a → a < 0xA0 → t.stored a = none) →
      ∀ a, 0x50 ≤ a → a < 0xA0 →
        (m.afterAll script).memory.cell a = Memory.glyphs.getD (a - 0x50) 0) := by
  rcases memory_of_loaded hok with ⟨hbytes, hmem⟩
  have hcell : ∀ a < 4096, Bytes.toInt ((m.afterAll script).memory.cell a) =
      ((m.course script).filterMap (Moment.stored · a)).getLast?.getD
        (Memory.origin image a) := by
    intro a ha
    rw [cell_afterAll m script hload ha, hmem]
    exact congrArg _ (Memory.cell_image hbytes ha)
  refine ⟨hcell, ?_⟩
  intro hnone a hlow hhigh
  have hnothing : (m.course script).filterMap (Moment.stored · a) = [] := by
    rw [List.filterMap_eq_nil_iff]
    exact fun t ht => hnone t ht a hlow hhigh
  have hglyph := hcell a (by omega)
  rw [hnothing, Memory.origin, if_neg (by omega), if_pos ⟨hlow, hhigh⟩] at hglyph
  rw [← Bytes.ofInt_toInt ((m.afterAll script).memory.cell a), hglyph]
  exact Bytes.ofInt_toInt _

/-- A program that saves two registers over a glyph finds them there
    afterwards. -/
theorem booted_save_stays :
    ∃ m : Machine Replay,
      loadProgram [0xA0, 0x51, 0xF1, 0x55] (initial (⟨[7], 0⟩ : Replay) true) = .ok () m ∧
      Memory.origin [0xA0, 0x51, 0xF1, 0x55] 0x51 = 0x90 ∧
      Bytes.toInt ((m.afterAll [.cycle, .tick, .cycle]).memory.cell 0x51) = 0 := by
  have hbytes : ∀ v ∈ [0xA0, 0x51, 0xF1, 0x55], Bytes.IsByte v := by decide
  have hok := loadProgram_booted (⟨[7], 0⟩ : Replay) true (by decide) hbytes
  have hload : ∀ other, Step.load other ∉ [.cycle, .tick, .cycle] := by
    intro other h
    simp only [List.mem_cons, reduceCtorEq, List.not_mem_nil, or_self] at h
  refine ⟨_, hok, by decide, ?_⟩
  rw [(last_store_stays hok [.cycle, .tick, .cycle] hload).1 0x51 (by decide)]
  decide +kernel

end Machine

end Chip8
