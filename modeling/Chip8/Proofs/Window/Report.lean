import Chip8.Proofs.Machine.Remarks
import Chip8.Proofs.Window.Share

/-!
# Reports of Halts

What a window reports of the cycles that halt its machine.

The report is written when the cycle has failed, and the address in it is that of the program
counter as the cycle has left it. A word that was fetched has moved the program counter on,
whatever became of its instruction afterwards, so that the address lies behind the instruction
that is to blame. Only where nothing could be fetched is it the one that the cycle began at.
The remarks on words that are passed over work their address out backwards; the report of a
halt does not.

A frame begins with the machine that the frames before it have left, and its loop ends at the
first cycle that fails. Each frame with such a cycle makes one report, and there are no others.

## Main definitions

* `Window.failing`: The machine at the beginning of the last cycle of the next frame.
* `Window.noticesOf`, `Window.log`: What is reported during an act and during many.

## Theorems

* `Machine.pc_of_cycle_error`: Where a cycle that fails leaves the program counter.
* `Machine.halted_not_mem_notices`: A loop of cycles reports no halt itself.
* `Notice.line_halted`: The line about a halt.
* `Window.cycle_failing`: The cycle that ends a frame early.
* `Window.halted_mem_frame_iff`: The halts that a frame reports.
* `Window.log_eq`: Only frames report anything.
* `Window.halts_reported`: The halts that are reported over any acts.
-/

namespace Chip8

/-- The line about a halt. -/
theorem Notice.line_halted (a : Int) (f : Fault) :
    (Notice.halted a f).line =
      Text.ofString s!"ERROR Execution halted at {Padded.address a}: {f.message}" := by
  have hlevel : toString "ERROR Execution halted at " =
      Level.error.name ++ " " ++ toString "Execution halted at " := by decide
  rw [line, level, text, Text.ofString_append, Text.ofString_append, hlevel]
  simp only [String.append_assoc]

namespace Machine

variable {ρ : Type}

/-- A return that is refused has dropped its address and gone nowhere. -/
theorem pc_abandoned (i : Instruction) (m : Machine ρ) : (abandoned i m).pc = m.pc := by
  cases i <;> rfl

variable [Source ρ]

/-- A cycle that fails has moved past its word if it could fetch it. -/
theorem pc_of_cycle_error {m m' : Machine ρ} {f : Fault} (h : m.cycle = .error f m') :
    m'.pc = if m.CanFetch then m.pc + 2 else m.pc := by
  rcases (cycle_error_iff m m' f).mp h with ⟨hcan, -, rfl⟩ | ⟨hcan, -, rfl⟩
  · rw [if_neg hcan]
  · rw [if_pos hcan, pc_abandoned]
    rfl

/-- All that a loop of cycles reports itself is words that are passed over. -/
theorem halted_not_mem_notices (m : Machine ρ) (n : Nat) (a : Int) (f : Fault) :
    Notice.halted a f ∉ (m.run n).notices := by
  rw [notices_run, log_eq]
  intro h
  rcases List.mem_map.mp h with ⟨t, -, ht⟩
  cases ht

end Machine

namespace Window

variable {ρ : Type} [Source ρ]

/-! ### Frames -/

/-- The machine at the beginning of the cycle with which the loop of the next frame ends
    early, if it does. -/
def failing (w : Window ρ) : Machine ρ :=
  (w.machine.run w.loop.completed).machine

/-- What ends a loop early is its failing cycle. -/
theorem cycle_failing {w : Window ρ} {f : Fault} (h : w.loop.fault = some f) :
    w.failing.cycle = .error f w.loop.machine :=
  (Machine.run_of_fault h).2.2

/-- A frame reports a halt if its loop ends in a fault that halts the machine, with the
    address behind the word of the failing cycle, or its own if there was no word. -/
theorem halted_mem_frame_iff (w : Window ρ) (a : Int) (f : Fault) :
    Notice.halted a f ∈ w.frame.notices ↔
      w.loop.fault = some f ∧ f.halts = true ∧
        a = if w.failing.CanFetch then w.failing.pc + 2 else w.failing.pc := by
  have hnone : Notice.halted a f ∉ w.loop.notices := w.machine.halted_not_mem_notices _ a f
  rw [frame_eq]
  cases hfault : w.loop.fault with
  | none => exact iff_of_false hnone nofun
  | some g =>
      simp only [Option.some.injEq]
      by_cases hhalts : g.halts = true
      · rw [if_pos hhalts, ← Machine.pc_of_cycle_error (cycle_failing hfault), List.mem_append,
          List.mem_singleton, Notice.halted.injEq]
        constructor
        · rintro (hmem | ⟨rfl, rfl⟩)
          · exact absurd hmem hnone
          · exact ⟨rfl, hhalts, rfl⟩
        · rintro ⟨rfl, -, rfl⟩
          exact Or.inr ⟨rfl, rfl⟩
      · -- A misuse goes through to the caller without a report.
        rw [if_neg hhalts]
        refine iff_of_false hnone ?_
        rintro ⟨rfl, hyes, -⟩
        exact hhalts hyes

/-! ### Acts -/

/-- What is reported during an act. -/
def noticesOf (w : Window ρ) : Act → List Notice
  | .start => []
  | .frame => w.frame.notices
  | .event e => (w.handle e).notices

/-- What is reported during acts, one after the other. -/
def log (w : Window ρ) : List Act → List Notice
  | [] => []
  | a :: acts => w.noticesOf a ++ (w.act a).log acts

theorem log_cons (w : Window ρ) (a : Act) (acts : List Act) :
    w.log (a :: acts) = w.noticesOf a ++ (w.act a).log acts := rfl

omit [Source ρ] in
/-- A key of the host is set or passed on in silence. -/
theorem notices_keyReaction (w : Window ρ) (code : Int) (pressed repeated : Bool) :
    (w.keyReaction code pressed repeated).notices = [] := by
  unfold keyReaction
  cases keyEvent code pressed repeated w <;> rfl

/-- An act reports what its frame does, and nothing if it runs none. -/
theorem noticesOf_eq (w : Window ρ) (a : Act) :
    w.noticesOf a = if w.runsFrame a then w.frame.notices else [] := by
  cases a with
  | start => rfl
  | frame => rfl
  | event e =>
      cases e with
      | timeout =>
          unfold noticesOf runsFrame handle timeout
          cases w.active <;> rfl
      | press code repeated =>
          rw [runsFrame, decide_eq_false nofun, Bool.and_false]
          exact w.notices_keyReaction code true repeated
      | release code repeated =>
          rw [runsFrame, decide_eq_false nofun, Bool.and_false]
          exact w.notices_keyReaction code false repeated
      | _ =>
          rw [runsFrame, decide_eq_false nofun, Bool.and_false]
          rfl

/-- What is reported over any acts is what their frames report. -/
theorem log_eq (w : Window ρ) (acts : List Act) :
    w.log acts = (w.begun acts).flatMap (·.frame.notices) := by
  induction acts generalizing w with
  | nil => rfl
  | cons a acts ih =>
      rw [log_cons, ih, noticesOf_eq, begun_cons]
      cases w.runsFrame a with
      | true => rw [if_pos rfl, if_pos rfl, List.flatMap_cons]
      | false => rfl

/-- Whatever is done to a window, over any machine and at any rates, each frame that ends with
    a cycle that halts the machine reports this with an address, and nothing else reports a
    halt. The address is the one that the failing cycle began at if it could not fetch its
    word. If it could, the address is two further, whatever has stood in the way of the
    instruction. -/
theorem halts_reported (w : Window ρ) (acts : List Act) :
    (∀ a f, Notice.halted a f ∈ w.log acts ↔
      ∃ v ∈ w.begun acts, v.loop.fault = some f ∧ f.halts = true ∧
        a = if v.failing.CanFetch then v.failing.pc + 2 else v.failing.pc) ∧
    (∀ v ∈ w.begun acts, ∀ f, v.loop.fault = some f →
      v.failing.cycle = .error f v.loop.machine) ∧
    ∀ a f, (Notice.halted a f).line =
      Text.ofString s!"ERROR Execution halted at {Padded.address a}: {f.message}" := by
  refine ⟨fun a f => ?_, fun v _ f hf => cycle_failing hf, Notice.line_halted⟩
  rw [log_eq, List.mem_flatMap]
  exact exists_congr fun v => and_congr_right fun _ => v.halted_mem_frame_iff a f

/-- A return without a call is reported at the address behind it. -/
theorem return_misnamed :
    ¬ ∀ (w : Window Replay) (acts : List Act) (f : Fault), ∀ v ∈ w.begun acts,
      v.loop.fault = some f → f.halts = true → .halted v.failing.pc f ∈ w.log acts := by
  intro hall
  let w := make (Machine.booted (⟨[7], 0⟩ : Replay) true [0x00, 0xEE]) Settings.default ⟨[]⟩
  have hrun : w.loop.fault = some .stackUnderflow ∧ w.failing.pc = 512 ∧
      w.log [.frame] = [.halted 514 .stackUnderflow] := by
    decide +kernel
  rcases hrun with ⟨hfault, hpc, hlog⟩
  have hnamed := hall w [.frame] _ w (List.mem_singleton.mpr rfl) hfault rfl
  rw [hpc, hlog] at hnamed
  exact absurd hnamed (by decide)

end Window

end Chip8
