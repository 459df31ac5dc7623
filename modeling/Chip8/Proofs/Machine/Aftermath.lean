import Chip8.Proofs.Machine.Failure

/-!
# The Aftermath of a Failing Cycle

What is left of a machine when a cycle has failed.

An obstacle is met before the first change. The machine that is left is
therefore the one before, past the word if there was one. The exception is a
return, which drops its address before it goes there: if the address is the end
of memory, where a call in the last word of memory returns to, the address is
gone afterwards. A program that comes to this stands at the end of the module.

## Main definitions

* `Machine.Stranded`: The case in which a failing return has dropped its
  address.
* `Machine.farCall`: A program that brings it about.

## Theorems

* `Machine.cycle_error_stack`: The stack that a failing cycle leaves.
* `Machine.cycle_error_frame`: The machine that it leaves.
* `Machine.farCall_stranded`: The exception is reached.
-/

namespace Chip8

namespace Machine

variable {ρ : Type}

/-- The next cycle drops a return address and then finds it outside memory. -/
def Stranded (m : Machine ρ) : Prop :=
  m.Fetches 0x00EE ∧ m.stack.live.getLast? = some 4096

/-- A return has one word only. -/
theorem instruction_eq_ret_iff (m : Machine ρ) : m.instruction = .ret ↔ m.word = 0x00EE := by
  constructor
  · intro h
    have hl : Listed m.word .ret :=
      (Instruction.listed_iff m.word_bounds .ret).mpr ⟨h, Instruction.noConfusion⟩
    generalize m.word = w at hl
    cases hl
    rfl
  · intro h
    unfold Machine.instruction
    rw [h]
    exact Instruction.decode_of_listed .ret

/-- Nothing is changed by an instruction that is refused, except by a return. -/
theorem abandoned_of_ne_ret {i : Instruction} (h : i ≠ .ret) (m : Machine ρ) :
    abandoned i m = m := by
  cases i with
  | ret => exact absurd rfl h
  | _ => rfl

/-- A return that is refused has dropped its address if it had one. -/
theorem stranded_or_empty {m : Machine ρ} {f : Fault} (hb : InBounds m) (hcan : m.CanFetch)
    (hword : m.word = 0x00EE) (hob : obstacle .ret m.passed = some f) :
    m.Stranded ∨ m.stack.live = [] := by
  have hkind : (obstacle .ret m.passed).map Fault.kind = some f.kind := by
    rw [hob]
    rfl
  rw [obstacle_ret_kind (inBounds_passed hb hcan).1] at hkind
  rcases hkind with ⟨hzero, -⟩ | ⟨hend, -⟩
  · exact Or.inr (List.length_eq_zero_iff.mp (m.stack.length_live.trans hzero))
  · exact Or.inl ⟨⟨hcan, hword⟩, hend⟩

/-- What is refused has nothing to report. -/
theorem remark_of_obstacle {i : Instruction} {m : Machine ρ} {f : Fault}
    (hob : obstacle i m = some f) : m.remark i = none := by
  cases i with
  | unknown w => cases hob
  | _ => rfl

/-- Nor has a cycle that fails. -/
theorem remark_of_cycle_error [Source ρ] {m m' : Machine ρ} {f : Fault}
    (herr : cycle m = .error f m') (hcan : m.CanFetch) :
    m.passed.remark m.instruction = none := by
  rcases (cycle_error_iff m m' f).mp herr with ⟨hcannot, -, -⟩ | ⟨-, hob, -⟩
  · exact absurd hcan hcannot
  · exact remark_of_obstacle hob

/-- The stack that a failing cycle leaves. -/
theorem cycle_error_stack [Source ρ] {m m' : Machine ρ} {f : Fault} (hb : InBounds m)
    (herr : cycle m = .error f m') :
    (¬ m.Stranded → m'.stack = m.stack) ∧ (m.Stranded → m'.stack = m.stack.dropTop) := by
  rcases (cycle_error_iff m m' f).mp herr with ⟨hcan, -, rfl⟩ | ⟨hcan, hob, rfl⟩
  · exact ⟨fun _ => rfl, fun hs => absurd hs.1.1 hcan⟩
  · by_cases hret : m.instruction = .ret
    · rw [hret] at hob ⊢
      refine ⟨fun hs => ?_, fun _ => rfl⟩
      rcases stranded_or_empty hb hcan ((instruction_eq_ret_iff m).mp hret) hob with hyes | hnil
      · exact absurd hyes hs
      · exact CallStack.dropTop_of_live_eq_nil hnil
    · rw [abandoned_of_ne_ret hret]
      exact ⟨fun _ => rfl, fun hs => absurd ((instruction_eq_ret_iff m).mpr hs.1.2) hret⟩

/-- A failing cycle of a reachable machine leaves it as it was, past the word
    if one was fetched. The stack has lost its latest address if that address
    was the end of memory, and is untouched otherwise. Nothing was reported. -/
theorem cycle_error_frame [Source ρ] {m m' : Machine ρ} {f : Fault} (h : Reachable m)
    (herr : cycle m = .error f m') :
    m' = { m with pc := if m.pc < 4095 then m.pc + 2 else m.pc, stack := m'.stack } ∧
      (¬ m.Stranded → m'.stack = m.stack) ∧
      (m.Stranded → m'.stack.slots = m.stack.slots ∧ m'.stack.depth + 1 = m.stack.depth) ∧
      (m.CanFetch → m.passed.remark m.instruction = none) ∧ (m.run 1).notices = [] := by
  have hb := inBounds_of_reachable h
  rcases cycle_error_stack hb herr with ⟨hkept, hdropped⟩
  refine ⟨?_, hkept, ?_, remark_of_cycle_error herr, ?_⟩
  · rcases (cycle_error_iff m m' f).mp herr with ⟨hcan, -, rfl⟩ | ⟨hcan, -, rfl⟩
    · rw [canFetch_iff hb] at hcan
      rw [if_neg hcan]
    · rw [if_pos hcan.2]
      by_cases hret : m.instruction = .ret
      · rw [hret]
        rfl
      · rw [abandoned_of_ne_ret hret]
        rfl
  · intro hs
    have hdepth : 0 < m.stack.depth := by
      rw [← m.stack.length_live]
      exact List.length_pos_of_mem (List.mem_of_getLast? hs.2)
    rw [hdropped hs]
    refine ⟨rfl, ?_⟩
    change m.stack.depth - 1 + 1 = m.stack.depth
    omega
  · unfold run
    rw [herr]

/-- A program that calls a subroutine from the last word of memory, which
    returns at once. -/
def farCall : List Int :=
  [0x1F, 0xFE, 0x00, 0xEE] ++ List.replicate 3578 0 ++ [0x22, 0x02]

theorem farCall_isByte : ∀ v ∈ farCall, Bytes.IsByte v := by
  intro v hv
  simp only [farCall, List.mem_append, List.mem_cons, List.mem_replicate, List.not_mem_nil,
    or_false] at hv
  unfold Bytes.IsByte
  omega

theorem farCall_length : farCall.length = 3584 := by
  simp only [farCall, List.length_append, List.length_replicate, List.length_cons, List.length_nil]

/-- A return address can be the end of memory. -/
theorem farCall_stranded :
    ∃ m : Machine Replay, Reachable m ∧ m.Stranded := by
  have hfits : farCall.length ≤ Memory.capacity := Nat.le_of_eq farCall_length
  have heq := booted_eq (⟨[7], 0⟩ : Replay) false hfits farCall_isByte
  have hreach₀ := reachable_booted (⟨[7], 0⟩ : Replay) false farCall
  generalize booted (⟨[7], 0⟩ : Replay) false farCall = m₀ at heq hreach₀
  have hmem₀ : m₀.memory = Memory.initial.place Memory.programStart (farCall.map Bytes.ofInt) := by
    rw [heq]
  have hpc₀ : m₀.pc = 512 := congrArg pc heq
  have hstack₀ : m₀.stack = .initial := congrArg stack heq
  have hw₀ : m₀.Fetches (0x1000 + (0xFFE : Target).val) := by
    refine ⟨by unfold CanFetch; omega, ?_⟩
    rw [word_eq_image (k := 0) hfits farCall_isByte hmem₀
      (by rw [farCall_length]; omega) (by omega)]
    decide +kernel
  rcases hw₀.cycle_jump with ⟨m₁, hok₀, hpc₁, hmem₁, hstack₁⟩
  have hw₁ : m₁.Fetches (0x2000 + (0x202 : Target).val) := by
    have hlast : m₁.pc = 4094 := hpc₁
    refine ⟨by unfold CanFetch; omega, ?_⟩
    rw [word_eq_image (k := 3582) hfits farCall_isByte (hmem₁.trans hmem₀)
      (by rw [farCall_length]; omega) (by omega)]
    decide +kernel
  have hdepth : m₁.stack.depth < 16 := by
    rw [hstack₁, hstack₀]
    decide
  rcases hw₁.cycle_call hdepth with ⟨m₂, hok₁, hpc₂, hmem₂, hstack₂⟩
  have hw₂ : m₂.Fetches 0x00EE := by
    have hsecond : m₂.pc = 514 := hpc₂
    refine ⟨by unfold CanFetch; omega, ?_⟩
    rw [word_eq_image (k := 2) hfits farCall_isByte (hmem₂.trans (hmem₁.trans hmem₀))
      (by rw [farCall_length]; omega) (by omega)]
    decide +kernel
  refine ⟨m₂, (hreach₀.cycle hok₀).cycle hok₁, hw₂, ?_⟩
  rw [hstack₂, CallStack.live_push hdepth (by rw [hpc₁]; decide), List.getLast?_concat, hpc₁]
  decide

/-- A return to the end of memory has dropped its address when it fails, and
    has changed nothing else. -/
theorem far_return_drops :
    ∃ (m m' : Machine Replay) (f : Fault), Reachable m ∧ cycle m = .error f m' ∧
      m' = { m with pc := m.pc + 2, stack := m'.stack } ∧ m'.stack.depth + 1 = m.stack.depth := by
  rcases farCall_stranded with ⟨m, hreach, hs⟩
  have hob : obstacle .ret m.passed = some (.address 4096) := by
    rw [obstacle, show m.passed.stack = m.stack from rfl, hs.2]
    rfl
  have herr := hs.1.cycle_error .ret hob
  rcases cycle_error_frame hreach herr with ⟨hframe, -, hstack, -⟩
  rw [if_pos hs.1.1.2] at hframe
  exact ⟨m, _, _, hreach, herr, hframe, (hstack hs).2⟩

end Machine

end Chip8
