import Chip8.Proofs.Machine.Failure
import Chip8.Proofs.Machine.Timer

/-!
# What Halts a Machine

What a cycle can fail with on a machine that need not have got where it is by
running.

Cursors that were set by hand can lie anywhere, and a fetch or a block then
fails as it does at the end of memory. The one thing that is not met by a
running program is a delay timer that holds no byte: to read it is a misuse,
which ends a frame without halting the machine. No step makes such a timer out
of one that holds a byte, so a machine with a byte in its delay timer is halted
by whatever its cycles fail with.

A loop of cycles ends with the first one that fails, and what that cycle fails
with is what the loop is said to end with.

## Theorems

* `Machine.kind_of_obstacle`, `Machine.kind_of_cycle`: What an effect or a cycle
  can fail with.
* `Machine.screen_of_cycle_error`: A cycle that fails leaves the screen alone.
* `Machine.isByte_delay_after`, `Machine.isByte_delay_afterAll`: A delay timer
  that holds a byte goes on to hold one.
* `Machine.run_of_fault`: The cycle that ends a loop.
* `Machine.run_invariant`: What cycles keep, loops keep.
* `Machine.run_halts`: Whatever ends a loop halts the machine.
* `Machine.run_ne_keyIndex`: It is never a key that there is not.
-/

namespace Chip8

/-- A misuse is all that does not halt a program. -/
theorem Fault.halts_iff_kind (f : Fault) : f.halts = true ↔ f.kind ≠ .misuse := by
  cases f <;> simp only [halts, kind, Bool.false_eq_true, ne_eq, reduceCtorEq, not_true_eq_false,
    not_false_eq_true]

namespace Machine

variable {ρ : Type}

/-! ### Kinds of faults -/

/-- What stands in the way of a jump is of one kind. -/
theorem kind_of_jumpObstacle {a : Int} {f : Fault} (h : jumpObstacle a = some f) :
    f.kind = .addressOutOfRange := by
  unfold jumpObstacle at h
  by_cases ha : Memory.IsAddress a
  · rw [if_pos ha] at h
    cases h
  · rw [if_neg ha] at h
    cases h
    rfl

/-- So is what stands in the way of a block. -/
theorem kind_of_blockObstacle {m : Machine ρ} {n : Nat} {past f : Fault}
    (hpast : past.kind = .addressOutOfRange) (h : m.blockObstacle n past = some f) :
    f.kind = .addressOutOfRange := by
  unfold blockObstacle at h
  by_cases hs : Memory.IsAddress m.index
  · rw [if_pos hs] at h
    by_cases he : m.index + n ≤ 4096
    · rw [if_pos he] at h
      cases h
    · rw [if_neg he] at h
      cases h
      exact hpast
  · rw [if_neg hs] at h
    cases h
    rfl

/-- What stands in the way of an effect on any machine: an address, the depth of
    the stack, or a delay timer that holds no byte. -/
theorem kind_of_obstacle {i : Instruction} {m : Machine ρ} {f : Fault}
    (h : obstacle i m = some f) :
    f.kind = .addressOutOfRange ∨ f.kind = .stackUnderflow ∨ f.kind = .stackOverflow ∨
      (f.kind = .misuse ∧ ¬ Bytes.IsByte m.delay) := by
  cases i with
  | ret =>
      rw [obstacle] at h
      cases hlast : m.stack.live.getLast? with
      | some a =>
          rw [hlast] at h
          exact Or.inl (kind_of_jumpObstacle h)
      | none =>
          rw [hlast] at h
          cases h
          exact Or.inr (Or.inl rfl)
  | call a =>
      rw [obstacle] at h
      by_cases hdepth : m.stack.depth < 16
      · rw [if_pos hdepth] at h
        cases h
      · rw [if_neg hdepth] at h
        cases h
        exact Or.inr (Or.inr (Or.inl rfl))
  | jumpFrom a => exact Or.inl (kind_of_jumpObstacle h)
  | getDelay x =>
      rw [obstacle] at h
      by_cases hdelay : Bytes.IsByte m.delay
      · rw [if_pos hdelay] at h
        cases h
      · rw [if_neg hdelay] at h
        cases h
        exact Or.inr (Or.inr (Or.inr ⟨rfl, hdelay⟩))
  | awaitKey x =>
      rw [obstacle] at h
      cases hlowest : m.keypad.lowest with
      | some k =>
          rw [hlowest] at h
          cases h
      | none =>
          rw [hlowest] at h
          simp only [] at h
          by_cases hpc : m.pc < 2
          · rw [if_pos hpc] at h
            cases h
            exact Or.inl rfl
          · rw [if_neg hpc] at h
            cases h
  | draw x y n => exact Or.inl (kind_of_blockObstacle rfl h)
  | decimal x => exact Or.inl (kind_of_blockObstacle rfl h)
  | save x => exact Or.inl (kind_of_blockObstacle rfl h)
  | restore x => exact Or.inl (kind_of_blockObstacle rfl h)
  -- Nothing stands in the way of the others.
  | _ => cases h

variable [Source ρ]

/-- Cycles fail in three ways, and in a fourth one with a delay timer that is no byte. -/
theorem kind_of_cycle {m m' : Machine ρ} {f : Fault} (h : m.cycle = .error f m') :
    f.kind = .addressOutOfRange ∨ f.kind = .stackUnderflow ∨ f.kind = .stackOverflow ∨
      (f.kind = .misuse ∧ ¬ Bytes.IsByte m.delay) := by
  rcases (cycle_error_iff m m' f).mp h with ⟨-, rfl, -⟩ | ⟨-, hob, -⟩
  · exact Or.inl rfl
  · exact kind_of_obstacle (m := m.passed) hob

/-- A cycle that fails has drawn nothing. -/
theorem screen_of_cycle_error {m m' : Machine ρ} {f : Fault} (h : m.cycle = .error f m') :
    m'.screen = m.screen := by
  rcases (cycle_error_iff m m' f).mp h with ⟨-, -, rfl⟩ | ⟨-, -, rfl⟩
  · rfl
  · cases m.instruction <;> rfl

/-! ### Delay timers that hold a byte -/

/-- A timer that holds a byte is set to the content of a register, or it goes down. -/
theorem isByte_delay_after {m : Machine ρ} (h : Bytes.IsByte m.delay) (s : Step) :
    Bytes.IsByte (m.after s).delay := by
  have hnext : (m.after s).delay =
      max 0 ((Moment.set .delay ⟨m, s⟩).getD m.delay - (Moment.ticks ⟨m, s⟩ : Int)) :=
    Moment.left_next .delay (t := ⟨m, s⟩) h.1
  have hset : Bytes.IsByte ((Moment.set .delay ⟨m, s⟩).getD m.delay) := by
    cases hv : Moment.set .delay ⟨m, s⟩ with
    | none => exact h
    | some v =>
        rcases Option.map_eq_some_iff.mp hv with ⟨x, -, rfl⟩
        exact m.isByte_value x
  rw [hnext]
  unfold Bytes.IsByte at *
  omega

theorem isByte_delay_afterAll {m : Machine ρ} (h : Bytes.IsByte m.delay) (script : List Step) :
    Bytes.IsByte (m.afterAll script).delay := by
  induction script generalizing m with
  | nil => exact h
  | cons s script ih =>
      rw [afterAll_cons]
      exact ih (isByte_delay_after h s)

/-! ### Loops of cycles -/

/-- A loop runs its first cycle, and the rest unless that fails. -/
theorem run_succ (n : Nat) (m : Machine ρ) :
    m.run (n + 1) =
      match m.cycle with
      | .error f m' => ⟨m', 0, some f, []⟩
      | .ok notice m' =>
        { m'.run n with
          completed := (m'.run n).completed + 1
          notices := notice.toList ++ (m'.run n).notices } := rfl

/-- A loop that ends early does so with what the cycle fails with that comes after
    the completed ones. -/
theorem run_of_fault {m : Machine ρ} {n : Nat} {f : Fault} (h : (m.run n).fault = some f) :
    (m.run n).completed < n ∧ (m.run (m.run n).completed).fault = none ∧
      (m.run (m.run n).completed).machine.cycle = .error f (m.run n).machine := by
  induction n generalizing m with
  | zero => cases h
  | succ n ih =>
      rw [run_succ] at h ⊢
      cases hcycle : m.cycle with
      | error g m' =>
          rw [hcycle] at h
          cases h
          exact ⟨Nat.succ_pos n, rfl, hcycle⟩
      | ok notice m' =>
          -- The loop fails later on, and this cycle is one more of those before.
          rw [hcycle] at h
          simp only [] at h ⊢
          rcases ih h with ⟨hlt, hnone, hfails⟩
          rw [run_succ, hcycle]
          exact ⟨Nat.succ_lt_succ hlt, hnone, hfails⟩

/-- What every cycle keeps is kept by a loop of cycles, however it ends. -/
theorem run_invariant {P : Machine ρ → Prop} (hcycle : ∀ m, P m → P (Action.final m.cycle))
    {m : Machine ρ} (h : P m) (n : Nat) : P (m.run n).machine := by
  induction n generalizing m with
  | zero => exact h
  | succ n ih =>
      have hfirst := hcycle m h
      rw [run_succ]
      cases hrun : m.cycle with
      | error g m' =>
          rw [hrun] at hfirst
          exact hfirst
      | ok notice m' =>
          rw [hrun] at hfirst
          exact ih hfirst

theorem isByte_delay_run {m : Machine ρ} (h : Bytes.IsByte m.delay) (n : Nat) :
    Bytes.IsByte (m.run n).machine.delay :=
  run_invariant (P := fun m => Bytes.IsByte m.delay) (fun _ hm => isByte_delay_after hm .cycle) h n

/-- Whatever ends a loop of cycles halts the machine, if its delay timer holds a
    byte. -/
theorem run_halts {m : Machine ρ} (hdelay : Bytes.IsByte m.delay) {n : Nat} {f : Fault}
    (h : (m.run n).fault = some f) : f.halts = true := by
  -- The cycles before the failing one have kept the byte, so that it is no misuse.
  rcases run_of_fault h with ⟨-, -, hfails⟩
  rw [Fault.halts_iff_kind]
  rcases kind_of_cycle hfails with hkind | hkind | hkind | ⟨-, hno⟩
  · rw [hkind]
    decide
  · rw [hkind]
    decide
  · rw [hkind]
    decide
  · exact absurd (isByte_delay_run hdelay _) hno

/-- No cycle looks at a key that there is not. -/
theorem run_ne_keyIndex (m : Machine ρ) (n : Nat) (k : Int) :
    (m.run n).fault ≠ some (.keyIndex k) := by
  intro h
  rcases run_of_fault h with ⟨-, -, hfails⟩
  rcases kind_of_cycle hfails with hkind | hkind | hkind | ⟨hkind, -⟩ <;> cases hkind

end Machine

end Chip8
