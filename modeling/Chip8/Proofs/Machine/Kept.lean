import Chip8.Proofs.Machine.Effect

/-!
# What Effects Leave Alone

An effect changes the components that its instruction is about and no others.
Two instructions write memory, two move the stack, two draw on the screen and
one draws from the source; the keys, the mode of the timers and the record of
the cycles are out of reach of all of them.

Everything that is proved of one component along a run starts here, so that
only the instructions that do change it have to be looked at again.

## Main definitions

* `Instruction.writesMemory`, `Instruction.movesStack`, `Instruction.draws`:
  The instructions that are there to change a component.
* `Machine.Kept`: What an instruction leaves alone.

## Theorems

* `Machine.kept_applied`: An effect leaves it alone.
* `Machine.kept_abandoned`: An effect that is refused leaves alone what a
  return does.
-/

namespace Chip8

namespace Instruction

/-- Whether an instruction writes memory. -/
def writesMemory : Instruction → Bool
  | .decimal _ | .save _ => true
  | _ => false

/-- Whether an instruction enters or leaves a subroutine. -/
def movesStack : Instruction → Bool
  | .call _ | .ret => true
  | _ => false

/-- Whether an instruction draws from the source. -/
def draws : Instruction → Bool
  | .random _ _ => true
  | _ => false

end Instruction

namespace Machine

variable {ρ : Type}

/-- What an instruction leaves alone in going from one machine to another. -/
structure Kept (i : Instruction) (m m' : Machine ρ) : Prop where
  memory : i.writesMemory = false → m'.memory = m.memory
  stack : i.movesStack = false → m'.stack = m.stack
  random : i.draws = false → m'.random = m.random
  keypad : m'.keypad = m.keypad
  ticksByCycle : m'.ticksByCycle = m.ticksByCycle
  cycles : m'.cycles = m.cycles
  lastWord : m'.lastWord = m.lastWord

/-- A skip is an addition to the counter. -/
theorem skipWhen_eq (m : Machine ρ) (p : Prop) [Decidable p] :
    m.skipWhen p = { m with pc := if p then m.pc + 2 else m.pc } := by
  unfold skipWhen
  by_cases h : p
  · rw [if_pos h, if_pos h]
  · rw [if_neg h, if_neg h]

/-- So a skip keeps all that instructions can keep. -/
theorem kept_skipWhen (i : Instruction) (m : Machine ρ) (p : Prop) [Decidable p] :
    Kept i m (m.skipWhen p) := by
  rw [skipWhen_eq]
  exact ⟨fun _ => rfl, fun _ => rfl, fun _ => rfl, rfl, rfl, rfl, rfl⟩

/-- An effect changes only what its instruction is about. -/
theorem kept_applied [Source ρ] (i : Instruction) (m : Machine ρ) : Kept i m (applied i m) := by
  cases i with
  | skipIs x kk => exact kept_skipWhen _ m _
  | skipIsNot x kk => exact kept_skipWhen _ m _
  | skipSame x y => exact kept_skipWhen _ m _
  | skipDiffer x y => exact kept_skipWhen _ m _
  | skipHeld x => exact kept_skipWhen _ m _
  | skipFree x => exact kept_skipWhen _ m _
  | awaitKey x =>
      rw [applied]
      cases m.keypad.lowest with
      | none => exact ⟨fun _ => rfl, fun _ => rfl, fun _ => rfl, rfl, rfl, rfl, rfl⟩
      | some k => exact ⟨fun _ => rfl, fun _ => rfl, fun _ => rfl, rfl, rfl, rfl, rfl⟩
  | decimal x =>
      refine ⟨?_, fun _ => rfl, fun _ => rfl, rfl, rfl, rfl, rfl⟩
      intro h
      cases h
  | save x =>
      refine ⟨?_, fun _ => rfl, fun _ => rfl, rfl, rfl, rfl, rfl⟩
      intro h
      cases h
  | call a =>
      refine ⟨fun _ => rfl, ?_, fun _ => rfl, rfl, rfl, rfl, rfl⟩
      intro h
      cases h
  | ret =>
      refine ⟨fun _ => rfl, ?_, fun _ => rfl, rfl, rfl, rfl, rfl⟩
      intro h
      cases h
  | random x kk =>
      refine ⟨fun _ => rfl, fun _ => rfl, ?_, rfl, rfl, rfl, rfl⟩
      intro h
      cases h
  -- The others change the cursors, the timers, the screen or registers.
  | _ =>
      rw [applied]
      exact ⟨fun _ => rfl, fun _ => rfl, fun _ => rfl, rfl, rfl, rfl, rfl⟩

/-- An effect does not count itself. -/
theorem cycles_applied [Source ρ] (i : Instruction) (m : Machine ρ) :
    (applied i m).cycles = m.cycles :=
  (kept_applied i m).cycles

/-- An effect that is refused changes no more than a return does. -/
theorem kept_abandoned (i : Instruction) (m : Machine ρ) : Kept .ret m (abandoned i m) := by
  cases i with
  | ret =>
      refine ⟨fun _ => rfl, ?_, fun _ => rfl, rfl, rfl, rfl, rfl⟩
      intro h
      cases h
  | _ => exact ⟨fun _ => rfl, fun _ => rfl, fun _ => rfl, rfl, rfl, rfl, rfl⟩

end Machine

end Chip8
