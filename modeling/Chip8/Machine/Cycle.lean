import Chip8.Machine.Execute

/-!
# Cycles

The machine runs one cycle at a time: fetch, decode, execute, count, and let
the timers tick if they go by cycles. A cycle that fails is not counted and
ticks nothing.

## Main definitions

* `Machine.tick`: One tick of the timers.
* `Machine.cycle`: One cycle.
* `Machine.run`: Cycles up to the first fault.
-/

namespace Chip8

namespace Machine

variable {ρ : Type}

/-- One tick: timers that run go down by one. -/
def tick (m : Machine ρ) : Machine ρ :=
  { m with
    delay := if 0 < m.delay then m.delay - 1 else m.delay
    sound := if 0 < m.sound then m.sound - 1 else m.sound }

/-- Whether the sound timer runs. -/
def sounding (m : Machine ρ) : Bool :=
  0 < m.sound

/-- Count a completed cycle, and tick if the timers go by cycles. -/
def complete (word : Int) (m : Machine ρ) : Machine ρ :=
  let m := { m with lastWord := some word, cycles := m.cycles + 1 }
  if m.ticksByCycle then m.tick else m

/-- One cycle. -/
def cycle [Source ρ] : Action (Machine ρ) (Option Notice) := do
  let word ← fetch
  let notice ← execute (Instruction.decode word)
  modify (complete word)
  return notice

/-- How a number of cycles went. -/
structure Run (ρ : Type) where
  machine : Machine ρ
  /-- How many cycles completed. -/
  completed : Nat
  /-- The fault that ended the run early. -/
  fault : Option Fault
  notices : List Notice

/-- At most `n` cycles, up to the first fault. -/
def run [Source ρ] : Nat → Machine ρ → Run ρ
  | 0, m => ⟨m, 0, none, []⟩
  | n + 1, m =>
    match cycle m with
    | .error f m => ⟨m, 0, some f, []⟩
    | .ok notice m =>
      let rest := run n m
      { rest with
        completed := rest.completed + 1
        notices := notice.toList ++ rest.notices }

/-- The instruction of the last completed cycle. -/
def lastInstruction (m : Machine ρ) : Option Instruction :=
  m.lastWord.map Instruction.decode

end Machine

end Chip8
