import Chip8.Machine.Cycle
import Chip8.Proofs.Instruction.Listed
import Chip8.Proofs.Machine.Kept

/-!
# Cycles in Closed Form

A cycle either cannot fetch, or fetches the word at the program counter and
leaves the rest to the effect of its instruction. `cycle_eq` says which of the
two happens and what is left in each case; the inversions after it start from
how a cycle went and give back why.

Everything that is proved of cycles goes through these statements, and none of
it looks at the chain of accesses that a cycle is made of.

## Main definitions

* `Machine.word`: The word at the program counter.
* `Machine.CanFetch`: Both bytes of the word lie inside memory.
* `Machine.Fetches`: The word that is fetched.
* `Machine.passed`: The machine past the word.
* `Machine.instruction`: The instruction of the word.

## Theorems

* `Machine.fetch_eq`: Fetching gives the word, or is refused.
* `Machine.cycle_eq`: A cycle as a whole.
* `Machine.cycle_ok_iff`: What a cycle that completes has met and done.
* `Machine.cycle_error_iff`: What a cycle that fails has met and left.
* `Machine.Fetches.cycle_ok`, `Machine.Fetches.cycle_error`: The same by the
  word that is fetched.
* `Machine.complete_eq`: What is added to an effect by counting the cycle.
-/

namespace Chip8

namespace Machine

variable {ρ : Type}

/-- The word at the program counter, its high byte first. -/
def word (m : Machine ρ) : Int :=
  256 * Bytes.toInt (m.memory.cell m.pc.toNat) + Bytes.toInt (m.memory.cell (m.pc + 1).toNat)

/-- Both bytes of the word at the program counter lie inside memory. -/
def CanFetch (m : Machine ρ) : Prop :=
  0 ≤ m.pc ∧ m.pc < 4095

instance (m : Machine ρ) : Decidable m.CanFetch :=
  inferInstanceAs (Decidable (_ ∧ _))

/-- The machine fetches a word. -/
def Fetches (m : Machine ρ) (w : Int) : Prop :=
  m.CanFetch ∧ m.word = w

instance (m : Machine ρ) (w : Int) : Decidable (m.Fetches w) :=
  inferInstanceAs (Decidable (_ ∧ _))

/-- The machine past the word at the program counter. -/
def passed (m : Machine ρ) : Machine ρ :=
  { m with pc := m.pc + 2 }

/-- The instruction of the word at the program counter. -/
def instruction (m : Machine ρ) : Instruction :=
  .decode m.word

/-- Why nothing can be fetched: the address of the first byte that is not
    there. -/
def fetchFault (m : Machine ρ) : Fault :=
  .address (if m.pc = 4095 then 4096 else m.pc)

theorem word_bounds (m : Machine ρ) : 0 ≤ m.word ∧ m.word < 65536 := by
  have hhigh := Bytes.isByte_toInt (m.memory.cell m.pc.toNat)
  have hlow := Bytes.isByte_toInt (m.memory.cell (m.pc + 1).toNat)
  unfold Bytes.IsByte at hhigh hlow
  unfold word
  omega

/-- A fetch reads its word and goes past it, or does nothing at all. -/
theorem fetch_eq (m : Machine ρ) :
    fetch m = if m.CanFetch then .ok m.word m.passed else .error m.fetchFault m := by
  unfold fetch onMemory
  rw [Action.run_bind, Action.run_get]
  simp only []
  rw [Action.run_bind, Action.run_on]
  by_cases hhigh : Memory.IsAddress m.pc
  · rw [Memory.read_ok hhigh]
    simp only []
    rw [Action.run_bind, Action.run_on]
    by_cases hlow : Memory.IsAddress (m.pc + 1)
    · have hcan : m.CanFetch := by
        unfold Memory.IsAddress Memory.size at hhigh hlow
        unfold CanFetch
        omega
      rw [Memory.read_ok hlow, if_pos hcan]
      rfl
    · have hend : m.pc = 4095 := by
        unfold Memory.IsAddress Memory.size at hhigh hlow
        omega
      have hcan : ¬ m.CanFetch := by
        unfold CanFetch
        omega
      have hnext : m.pc + 1 = 4096 := by omega
      rw [Memory.read_error hlow, if_neg hcan, fetchFault, if_pos hend, hnext]
  · have hend : ¬ m.pc = 4095 := by
      unfold Memory.IsAddress Memory.size at hhigh
      omega
    have hcan : ¬ m.CanFetch := by
      unfold Memory.IsAddress Memory.size at hhigh
      unfold CanFetch
      omega
    rw [Memory.read_error hhigh, if_neg hcan, fetchFault, if_neg hend]

/-- An instruction is executed unless something stands in its way. -/
theorem execute_eq [Source ρ] (i : Instruction) (m : Machine ρ) :
    execute i m =
      match obstacle i m with
      | none => .ok (m.remark i) (applied i m)
      | some f => .error f (abandoned i m) := by
  unfold execute
  rw [Action.run_bind, Action.run_get]
  simp only []
  rw [Action.run_bind, effect_eq]
  cases obstacle i m <;> rfl

/-- A cycle as a whole. It cannot fetch, or it meets the obstacle of its
    instruction, or it completes. -/
theorem cycle_eq [Source ρ] (m : Machine ρ) :
    cycle m =
      if m.CanFetch then
        match obstacle m.instruction m.passed with
        | none =>
          .ok (m.passed.remark m.instruction)
            (complete m.word (applied m.instruction m.passed))
        | some f => .error f (abandoned m.instruction m.passed)
      else .error m.fetchFault m := by
  unfold cycle
  rw [Action.run_bind, fetch_eq]
  by_cases hcan : m.CanFetch
  · rw [if_pos hcan, if_pos hcan]
    simp only []
    rw [Action.run_bind, show Instruction.decode m.word = m.instruction from rfl, execute_eq]
    cases obstacle m.instruction m.passed <;> rfl
  · rw [if_neg hcan, if_neg hcan]

/-- What a cycle does that completes. Later proofs take a cycle apart with this and the
    next one, and need not unfold it. -/
theorem cycle_ok_iff [Source ρ] (m m' : Machine ρ) (notice : Option Notice) :
    cycle m = .ok notice m' ↔
      m.CanFetch ∧ obstacle m.instruction m.passed = none ∧
        notice = m.passed.remark m.instruction ∧
        m' = complete m.word (applied m.instruction m.passed) := by
  rw [cycle_eq]
  by_cases hcan : m.CanFetch
  · rw [if_pos hcan]
    cases obstacle m.instruction m.passed with
    | none =>
        simp only [EStateM.Result.ok.injEq, hcan, true_and]
        constructor
        · rintro ⟨hn, hm⟩
          exact ⟨hn.symm, hm.symm⟩
        · rintro ⟨hn, hm⟩
          exact ⟨hn.symm, hm.symm⟩
    | some f => simp only [reduceCtorEq, false_and, and_false]
  · rw [if_neg hcan]
    simp only [reduceCtorEq, hcan, false_and]

/-- A cycle that fails does so in its fetch or in its instruction. -/
theorem cycle_error_iff [Source ρ] (m m' : Machine ρ) (f : Fault) :
    cycle m = .error f m' ↔
      (¬ m.CanFetch ∧ f = m.fetchFault ∧ m' = m) ∨
      (m.CanFetch ∧ obstacle m.instruction m.passed = some f ∧
        m' = abandoned m.instruction m.passed) := by
  rw [cycle_eq]
  by_cases hcan : m.CanFetch
  · rw [if_pos hcan]
    cases obstacle m.instruction m.passed with
    | none => simp only [reduceCtorEq, hcan, not_true_eq_false, false_and, and_false, or_false]
    | some g =>
        simp only [EStateM.Result.error.injEq, hcan, not_true_eq_false, false_and, true_and,
          Option.some.injEq, false_or]
        constructor
        · rintro ⟨hf, hm⟩
          exact ⟨hf, hm.symm⟩
        · rintro ⟨hf, hm⟩
          exact ⟨hf, hm.symm⟩
  · rw [if_neg hcan]
    simp only [EStateM.Result.error.injEq, hcan, not_false_eq_true, true_and, false_and, or_false]
    constructor
    · rintro ⟨hf, hm⟩
      exact ⟨hf.symm, hm.symm⟩
    · rintro ⟨hf, hm⟩
      exact ⟨hf.symm, hm.symm⟩

/-! ### By the word that is fetched -/

/-- The listing gives the instruction of a word that is fetched. -/
theorem Fetches.instruction {m : Machine ρ} {w : Int} {i : Instruction} (hw : m.Fetches w)
    (hl : Listed w i) : m.instruction = i := by
  unfold Machine.instruction
  rw [hw.2]
  exact Instruction.decode_of_listed hl

/-- A cycle that fetches a listed word completes if nothing stands in the way
    of its instruction. -/
theorem Fetches.cycle_ok [Source ρ] {m : Machine ρ} {w : Int} {i : Instruction}
    (hw : m.Fetches w) (hl : Listed w i) (hob : obstacle i m.passed = none) :
    cycle m = .ok (m.passed.remark i) (complete w (applied i m.passed)) := by
  rw [cycle_eq, if_pos hw.1, hw.instruction hl, hob, hw.2]

/-- A cycle that fetches a listed word fails with what stands in the way of its
    instruction. -/
theorem Fetches.cycle_error [Source ρ] {m : Machine ρ} {w : Int} {i : Instruction} {f : Fault}
    (hw : m.Fetches w) (hl : Listed w i) (hob : obstacle i m.passed = some f) :
    cycle m = .error f (abandoned i m.passed) := by
  rw [cycle_eq, if_pos hw.1, hw.instruction hl, hob]

/-- What is added to an effect by counting the cycle. -/
theorem complete_eq (w : Int) (m : Machine ρ) :
    complete w m =
      { m with
        delay := if m.ticksByCycle = true then m.tick.delay else m.delay
        sound := if m.ticksByCycle = true then m.tick.sound else m.sound
        cycles := m.cycles + 1
        lastWord := some w } := by
  unfold complete
  simp only []
  by_cases h : m.ticksByCycle = true
  · rw [if_pos h, if_pos h, if_pos h]
    rfl
  · rw [if_neg h, if_neg h, if_neg h]

/-- A jump to the address in its word always completes. -/
theorem Fetches.cycle_jump [Source ρ] {m : Machine ρ} {a : Target}
    (hw : m.Fetches (0x1000 + a.val)) :
    ∃ m', m.cycle = .ok none m' ∧ m'.pc = a.val ∧ m'.memory = m.memory ∧ m'.stack = m.stack := by
  refine ⟨_, hw.cycle_ok (.jump a) rfl, ?_⟩
  rw [complete_eq]
  exact ⟨rfl, rfl, rfl⟩

/-- A call completes as long as there is a free level. -/
theorem Fetches.cycle_call [Source ρ] {m : Machine ρ} {a : Target}
    (hw : m.Fetches (0x2000 + a.val)) (hdepth : m.stack.depth < 16) :
    ∃ m', m.cycle = .ok none m' ∧ m'.pc = a.val ∧ m'.memory = m.memory ∧
      m'.stack = m.stack.push (m.pc + 2) := by
  refine ⟨_, hw.cycle_ok (.call a) (if_pos hdepth), ?_⟩
  rw [complete_eq]
  exact ⟨rfl, rfl, rfl⟩

end Machine

end Chip8
