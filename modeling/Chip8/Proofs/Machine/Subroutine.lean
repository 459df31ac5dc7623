import Chip8.Proofs.Machine.Aftermath
import Chip8.Proofs.Machine.Course
import Mathlib.Data.List.Induction
import Mathlib.Data.List.Infix

/-!
# Subroutines

A subroutine returns to where it was called from, whatever it does in between.

The stack is only ever changed at its end: a call puts an address there and a
return takes one away, and nothing else touches it. What lies below the end
therefore stays as it is for as long as the stack does not get shorter than
that, through calls within calls, jumps, faults and programs that rewrite
themselves. The step that does make it shorter is a return, and it finds the
address that the call has put there.

A call in the last word of memory returns to the end of memory, where nothing
can be fetched. Its return fails, and has dropped the address by then.

## Theorems

* `Machine.Moment.live_next`: How a step can change the stack.
* `Machine.Moment.prefix_next`, `Machine.prefix_afterAll`: What lies below the
  end stays.
* `Machine.Moment.live_of_return`: What the step does that makes the stack
  shorter.
* `Machine.Fetches.cycle_ret`: Where a return leads.
* `Machine.subroutine_returns`: A subroutine returns to where it was called
  from.
-/

namespace Chip8

namespace Machine

variable {ρ : Type} [Source ρ]

namespace Moment

/-- A step leaves the stack alone, or puts an address at its end, or is a return
    that takes one away. -/
theorem live_next (t : Moment ρ) :
    t.next.stack.live = t.machine.stack.live ∨
    (∃ a, t.next.stack.live = t.machine.stack.live ++ [a]) ∨
    (t.step = .cycle ∧ t.machine.Fetches 0x00EE ∧
      t.next.stack.live = t.machine.stack.live.dropLast) := by
  rcases t with ⟨m, s⟩
  cases s with
  | load image =>
      rw [show (⟨m, .load image⟩ : Moment ρ).next = _ from after_load m image]
      exact Or.inl rfl
  | cycle =>
      cases hexec : (⟨m, .cycle⟩ : Moment ρ).executed with
      | some i =>
          have hkept := kept_applied i m.passed
          rcases (executed_eq_some_iff _ i).mp hexec with ⟨-, hcan, hi, hob⟩
          rw [next_of_executed hexec, complete_eq]
          cases i with
          | call a =>
              rw [obstacle] at hob
              by_cases hdepth : m.passed.stack.depth < 16
              · have hlow : 0 ≤ m.pc ∧ m.pc < 4095 := hcan
                refine Or.inr (Or.inl ⟨m.pc + 2, CallStack.live_push hdepth ?_⟩)
                change 0 ≤ m.pc + 2 ∧ m.pc + 2 < 65536
                omega
              · rw [if_neg hdepth] at hob
                cases hob
          | ret =>
              have hword := (instruction_eq_ret_iff m).mp hi
              exact Or.inr (Or.inr ⟨rfl, ⟨hcan, hword⟩, CallStack.live_dropTop _⟩)
          | _ => exact Or.inl (congrArg CallStack.live (hkept.stack rfl))
      | none =>
          rcases next_of_idle rfl hexec with hnext | ⟨hcan, hnext⟩
          · rw [hnext]
            exact Or.inl rfl
          · rw [hnext]
            -- A return has dropped its address also when it is refused.
            by_cases hret : m.instruction = .ret
            · have hword := (instruction_eq_ret_iff m).mp hret
              refine Or.inr (Or.inr ⟨rfl, ⟨hcan, hword⟩, ?_⟩)
              change (abandoned m.instruction m.passed).stack.live = _
              rw [hret]
              exact CallStack.live_dropTop _
            · change (abandoned m.instruction m.passed).stack.live = _ ∨ _
              rw [abandoned_of_ne_ret hret]
              exact Or.inl rfl
  | tick => exact Or.inl rfl
  | setKey key pressed =>
      rw [show (⟨m, .setKey key pressed⟩ : Moment ρ).next = _ from after_setKey m key pressed]
      exact Or.inl rfl
  | releaseKeys => exact Or.inl rfl

/-- What lies below the end of the stack stays as long as the stack does not get shorter
    than that. -/
theorem prefix_next {outer : List Int} {t : Moment ρ} (h : outer <+: t.machine.stack.live)
    (hdeep : outer.length ≤ t.next.stack.depth) : outer <+: t.next.stack.live := by
  rw [← CallStack.length_live] at hdeep
  rcases live_next t with hsame | ⟨a, hpush⟩ | ⟨-, -, hpop⟩
  · rw [hsame]
    exact h
  · rw [hpush]
    exact h.trans (List.prefix_append _ [a])
  · rw [hpop] at hdeep ⊢
    exact List.prefix_of_prefix_length_le h (List.dropLast_prefix _) hdeep

/-- The step that makes the stack shorter than that is a return, and what it
    takes away is the address on top. -/
theorem live_of_return {outer : List Int} {a : Int} {t : Moment ρ}
    (h : outer ++ [a] <+: t.machine.stack.live) (hback : t.next.stack.depth ≤ outer.length) :
    t.step = .cycle ∧ t.machine.Fetches 0x00EE ∧ t.machine.stack.live = outer ++ [a] ∧
      t.next.stack.live = outer := by
  have hlen := h.length_le
  rw [List.length_append, List.length_singleton] at hlen
  rw [← CallStack.length_live] at hback
  rcases live_next t with hsame | ⟨b, hpush⟩ | ⟨hstep, hword, hpop⟩
  · rw [hsame] at hback
    omega
  · rw [hpush, List.length_append] at hback
    omega
  · rw [hpop, List.length_dropLast] at hback
    have hall : outer ++ [a] = t.machine.stack.live := by
      refine h.eq_of_length ?_
      rw [List.length_append, List.length_singleton]
      omega
    refine ⟨hstep, hword, hall.symm, ?_⟩
    rw [hpop, ← hall, List.dropLast_concat]

end Moment

/-- What lies below the end of the stack stays along a script during which the
    stack does not get shorter than that. -/
theorem prefix_afterAll {outer : List Int} {m : Machine ρ} (h : outer <+: m.stack.live)
    (script : List Step)
    (hdeep : ∀ p, p <+: script → outer.length ≤ (m.afterAll p).stack.depth) :
    outer <+: (m.afterAll script).stack.live := by
  -- By the last step, since the bound on the depth is known of what a script
  -- starts with.
  induction script using List.reverseRecOn with
  | nil => exact h
  | append_singleton script s ih =>
      have hbefore := ih fun p hp => hdeep p (hp.trans (List.prefix_append script [s]))
      have hafter := hdeep _ (List.prefix_refl _)
      rw [afterAll_concat] at hafter ⊢
      exact Moment.prefix_next (t := ⟨m.afterAll script, s⟩) hbefore hafter

/-- A return leads to the latest address, or fails if it lies outside memory. -/
theorem Fetches.cycle_ret {m : Machine ρ} {a : Int} (hw : m.Fetches 0x00EE)
    (hlast : m.stack.live.getLast? = some a) :
    (Memory.IsAddress a → ∃ n, m.cycle = .ok none n ∧ n.pc = a ∧ n.stack = m.stack.dropTop) ∧
      (¬ Memory.IsAddress a → ∃ n, m.cycle = .error (.address a) n) := by
  have hob : obstacle .ret m.passed = jumpObstacle a := by
    rw [obstacle, show m.passed.stack = m.stack from rfl, hlast]
  constructor
  · intro ha
    rw [jumpObstacle, if_pos ha] at hob
    refine ⟨_, hw.cycle_ok .ret hob, ?_⟩
    rw [complete_eq]
    refine ⟨?_, rfl⟩
    change m.stack.live.getLast?.getD 0 = a
    rw [hlast, Option.getD_some]
  · intro ha
    rw [jumpObstacle, if_neg ha] at hob
    exact ⟨_, hw.cycle_error .ret hob⟩

/-- A call puts the address of the word after it on the stack. While the subroutine
    has not returned, this address and those below it stay there. The step that brings
    the stack back to what it was before the call is a return, and it leads to the word
    after the call, or fails if that is the end of memory. -/
theorem subroutine_returns {m m' : Machine ρ} {notice : Option Notice} {a : Target}
    (hcall : m.Fetches (0x2000 + a.val)) (hok : m.cycle = .ok notice m') (script : List Step)
    (hinside : ∀ p, p <+: script → p ≠ [] → m.stack.depth < (m'.afterAll p).stack.depth) :
    m'.stack.live = m.stack.live ++ [m.pc + 2] ∧
    m.stack.live ++ [m.pc + 2] <+: (m'.afterAll script).stack.live ∧
    ∀ s, ((m'.afterAll script).after s).stack.depth ≤ m.stack.depth →
      s = .cycle ∧ (m'.afterAll script).Fetches 0x00EE ∧
      ((m'.afterAll script).after s).stack.live = m.stack.live ∧
      (m.pc + 2 ≤ 4095 → ∃ n, (m'.afterAll script).cycle = .ok none n ∧ n.pc = m.pc + 2) ∧
      (m.pc = 0xFFE → ∃ n, (m'.afterAll script).cycle = .error (.address 0x1000) n) := by
  have hlow := hcall.1
  unfold CanFetch at hlow
  -- The call has found a free level, since it has completed.
  have hlive : m'.stack.live = m.stack.live ++ [m.pc + 2] := by
    rcases (cycle_ok_iff m m' notice).mp hok with ⟨-, hob, -, -⟩
    rw [hcall.instruction (.call a), obstacle] at hob
    by_cases hdepth : m.stack.depth < 16
    · rcases hcall.cycle_call hdepth with ⟨n, hn, -, -, hstack⟩
      rw [hok] at hn
      cases hn
      rw [hstack, CallStack.live_push hdepth (by omega)]
    · rw [if_neg (show ¬ m.passed.stack.depth < 16 from hdepth)] at hob
      cases hob
  have hstays : m.stack.live ++ [m.pc + 2] <+: (m'.afterAll script).stack.live := by
    refine prefix_afterAll (hlive ▸ List.prefix_refl _) script ?_
    intro p hp
    by_cases hnil : p = []
    · rw [hnil, ← hlive, CallStack.length_live]
      exact Nat.le_refl _
    · rw [List.length_append, List.length_singleton, CallStack.length_live]
      exact hinside p hp hnil
  refine ⟨hlive, hstays, ?_⟩
  intro s hback
  rw [← CallStack.length_live m.stack] at hback
  rcases Moment.live_of_return (t := ⟨m'.afterAll script, s⟩) hstays hback with
    ⟨hstep, hword, hall, hafter⟩
  have hlast : (m'.afterAll script).stack.live.getLast? = some (m.pc + 2) := by
    rw [show (m'.afterAll script).stack.live = _ from hall, List.getLast?_concat]
  rcases hword.cycle_ret hlast with ⟨hreturns, hfails⟩
  refine ⟨hstep, hword, hafter, ?_, ?_⟩
  · intro hpc
    rcases hreturns ⟨by omega, by unfold Memory.size; omega⟩ with ⟨n, hn, hback, -⟩
    exact ⟨n, hn, hback⟩
  · intro hpc
    rw [hpc] at hfails
    exact hfails (by decide)

/-- A subroutine calls another, which calls a third. After that has returned, the second
    returns to the first one, to the word after the call. -/
theorem nested_call_returns :
    let m := (booted (⟨[7], 0⟩ : Replay) true
      [0x22, 0x04, 0x12, 0x02, 0x22, 0x08, 0x00, 0xEE, 0x22, 0x0C, 0x00, 0xEE, 0x00, 0xEE]).after
        .cycle
    let m' := m.after .cycle
    let script : List Step := [.cycle, .tick, .cycle]
    m.Fetches 0x2208 ∧ m.cycle = .ok none m' ∧
      (∀ p, p <+: script → p ≠ [] → m.stack.depth < (m'.afterAll p).stack.depth) ∧
      m'.stack.live = [0x202, 0x206] ∧ (m'.after .cycle).stack.live = [0x202, 0x206, 0x20A] ∧
      ((m'.afterAll script).after .cycle).stack.live = [0x202] ∧
      ∃ n, (m'.afterAll script).cycle = .ok none n ∧ n.pc = 0x206 := by
  intro m m' script
  have hrun : m.Fetches (0x2000 + (0x208 : Target).val) ∧ m.pc = 0x204 ∧
      m.stack.live = [0x202] ∧ m.stack.depth = 1 ∧
      (∀ p ∈ script.inits, p ≠ [] → 1 < (m'.afterAll p).stack.depth) ∧
      (m'.after .cycle).stack.live = [0x202, 0x206, 0x20A] ∧
      ((m'.afterAll script).after .cycle).stack.depth = 1 := by
    decide +kernel
  rcases hrun with ⟨hcall, hpc, hlive, hdepth, hdeep, hinner, hback⟩
  rcases hcall.cycle_call (by omega) with ⟨n, hn, -⟩
  have hok : m.cycle = .ok none m' := by
    rw [hn, show m' = Action.final m.cycle from m.after_cycle, hn, Action.final_ok]
  have hinside : ∀ p, p <+: script → p ≠ [] → m.stack.depth < (m'.afterAll p).stack.depth := by
    intro p hp hnil
    rw [hdepth]
    exact hdeep p ((List.mem_inits p script).mpr hp) hnil
  rcases subroutine_returns hcall hok script hinside with ⟨hpushed, -, hreturn⟩
  rcases hreturn .cycle (by omega) with ⟨-, -, hafter, hleads, -⟩
  rw [hlive, hpc] at hpushed
  rw [hlive] at hafter
  rw [hpc] at hleads
  exact ⟨hcall, hok, hinside, hpushed, hinner, hafter, hleads (by decide)⟩

end Machine

end Chip8
