import Chip8.Proofs.Machine.Cycle

/-!
# Histories

What can happen to a machine after it has been switched on. Whoever drives it
loads programs, runs cycles, ticks the timers, and sets and releases keys, in
any order and as often as they like; some of these are refused, and a refusal
leaves a machine behind as well. A machine is reachable if some such history
leads to it.

## Main definitions

* `Machine.Step`: One thing that is done to a machine.
* `Machine.perform`: Doing it.
* `Machine.after`: The machine afterwards, whether it was refused or not.
* `Machine.Reachable`: The machines that some history leads to.
* `Machine.booted`: A machine that has been given a program.

## Theorems

* `Machine.perform_load`, `Machine.perform_setKey`: What comes of the steps
  that can be refused, cycles apart.
* `Machine.after_load`, `Machine.after_setKey` and their kin: What each step
  changes.
* `Machine.word_eq_image`: The words of a program that memory holds.
* `Machine.booted_fetches`: A machine with a program fetches its first word.
* `Machine.Reachable.invariant`: What holds at the start and survives every
  step holds of every reachable machine.
-/

namespace Chip8

namespace Machine

variable {ρ : Type}

/-- One thing that is done to a machine by whoever drives it. -/
inductive Step where
  /-- Load a program image. -/
  | load (image : List Int)
  /-- Run one cycle. -/
  | cycle
  /-- Tick the timers. -/
  | tick
  /-- Press or release a key. -/
  | setKey (key : Int) (pressed : Bool)
  /-- Release all keys. -/
  | releaseKeys
  deriving DecidableEq, Repr

/-- Do it, and hand on what was reported. -/
def perform [Source ρ] : Step → Action (Machine ρ) (Option Notice)
  | .load image => do
    loadProgram image
    return none
  | .cycle => cycle
  | .tick => do
    modify tick
    return none
  | .setKey key pressed => do
    onKeypad (Keypad.set key pressed)
    return none
  | .releaseKeys => do
    modify fun m => { m with keypad := .released }
    return none

/-- The machine after a step, whether the step was refused or not. -/
def after [Source ρ] (m : Machine ρ) (s : Step) : Machine ρ :=
  Action.final (perform s m)

/-- The machines that some history leads to, from a source in any state and in
    either mode of the timers. -/
inductive Reachable [Source ρ] : Machine ρ → Prop
  | initial (random : ρ) (ticksByCycle : Bool) : Reachable (initial random ticksByCycle)
  | after {m : Machine ρ} (s : Step) (h : Reachable m) : Reachable (m.after s)

/-! ### What each step changes -/

variable [Source ρ]

theorem after_cycle (m : Machine ρ) : m.after .cycle = Action.final (cycle m) := rfl

theorem after_tick (m : Machine ρ) : m.after .tick = m.tick := rfl

theorem after_releaseKeys (m : Machine ρ) :
    m.after .releaseKeys = { m with keypad := .released } := rfl

/-- A program image changes memory, or is refused and changes nothing else. -/
theorem perform_load (m : Machine ρ) (image : List Int) :
    perform (.load image) m =
      match Memory.load image m.memory with
      | .ok _ mem => .ok none { m with memory := mem }
      | .error f mem => .error f { m with memory := mem } := by
  unfold perform loadProgram onMemory
  simp only []
  rw [Action.run_bind, Action.run_on]
  cases Memory.load image m.memory <;> rfl

theorem perform_setKey (m : Machine ρ) (key : Int) (pressed : Bool) :
    perform (.setKey key pressed) m =
      match Keypad.set key pressed m.keypad with
      | .ok _ keys => .ok none { m with keypad := keys }
      | .error f keys => .error f { m with keypad := keys } := by
  unfold perform onKeypad
  simp only []
  rw [Action.run_bind, Action.run_on]
  cases Keypad.set key pressed m.keypad <;> rfl

/-- What a program image leaves. One that is refused may have been any list of integers. -/
theorem after_load (m : Machine ρ) (image : List Int) :
    m.after (.load image) = { m with memory := Action.final (Memory.load image m.memory) } := by
  unfold after
  rw [perform_load]
  cases Memory.load image m.memory <;> rfl

theorem after_setKey (m : Machine ρ) (key : Int) (pressed : Bool) :
    m.after (.setKey key pressed) =
      { m with keypad := Action.final (Keypad.set key pressed m.keypad) } := by
  unfold after
  rw [perform_setKey]
  cases Keypad.set key pressed m.keypad <;> rfl

/-- What a cycle leads to is reachable. -/
theorem Reachable.cycle {m m' : Machine ρ} {notice : Option Notice} (h : Reachable m)
    (hok : m.cycle = .ok notice m') : Reachable m' := by
  have hafter := h.after .cycle
  rw [after_cycle, hok, Action.final_ok] at hafter
  exact hafter

/-! ### Programs -/

/-- A machine that has been switched on and given a program. -/
def booted (random : ρ) (ticksByCycle : Bool) (image : List Int) : Machine ρ :=
  (initial random ticksByCycle).after (.load image)

theorem reachable_booted (random : ρ) (ticksByCycle : Bool) (image : List Int) :
    Reachable (booted random ticksByCycle image) :=
  .after _ (.initial random ticksByCycle)

/-- A program that fits is placed where programs start, and the rest is as it was built. -/
theorem booted_eq (random : ρ) (ticksByCycle : Bool) {image : List Int}
    (hlen : image.length ≤ Memory.capacity) (h : ∀ v ∈ image, Bytes.IsByte v) :
    booted random ticksByCycle image =
      { initial random ticksByCycle with
        memory := Memory.initial.place Memory.programStart (image.map Bytes.ofInt) } := by
  unfold booted
  rw [after_load]
  change { initial random ticksByCycle with
    memory := Action.final (Memory.load image Memory.initial) } = _
  rw [Memory.load_ok _ hlen h, Action.final_ok]

theorem loadProgram_booted (random : ρ) (ticksByCycle : Bool) {image : List Int}
    (hlen : image.length ≤ Memory.capacity) (h : ∀ v ∈ image, Bytes.IsByte v) :
    loadProgram image (initial random ticksByCycle) =
      .ok () (booted random ticksByCycle image) := by
  unfold loadProgram onMemory
  rw [Action.run_on, show (initial random ticksByCycle).memory = Memory.initial from rfl,
    Memory.load_ok _ hlen h, booted_eq random ticksByCycle hlen h]

omit [Source ρ] in
/-- The word of a program at the program counter, as long as memory holds the
    program. -/
theorem word_eq_image {m : Machine ρ} {image : List Int} (hlen : image.length ≤ Memory.capacity)
    (h : ∀ v ∈ image, Bytes.IsByte v)
    (hmem : m.memory = Memory.initial.place Memory.programStart (image.map Bytes.ofInt)) {k : Nat}
    (hk : k + 1 < image.length) (hpc : m.pc = 512 + k) :
    m.word = 256 * image.getD k 0 + image.getD (k + 1) 0 := by
  have hfits : image.length ≤ 3584 := hlen
  have hbyte : ∀ j < image.length, Bytes.toInt (m.memory.cell (512 + j)) = image.getD j 0 := by
    intro j hj
    rw [hmem, Memory.cell_image h (by omega), Memory.origin, if_pos (by omega),
      Nat.add_sub_cancel_left]
  unfold word
  rw [show m.pc.toNat = 512 + k by omega, show (m.pc + 1).toNat = 512 + (k + 1) by omega,
    hbyte k (by omega), hbyte (k + 1) hk]

/-- A machine that has been given a program fetches its first word. -/
theorem booted_fetches (random : ρ) (ticksByCycle : Bool) {high low : Int} {image : List Int}
    (hlen : image.length + 2 ≤ Memory.capacity) (hhigh : Bytes.IsByte high)
    (hlow : Bytes.IsByte low) (h : ∀ v ∈ image, Bytes.IsByte v) :
    (booted random ticksByCycle (high :: low :: image)).Fetches (256 * high + low) := by
  have hfits : (high :: low :: image).length ≤ Memory.capacity := hlen
  have hbytes : ∀ v ∈ high :: low :: image, Bytes.IsByte v :=
    List.forall_mem_cons.mpr ⟨hhigh, List.forall_mem_cons.mpr ⟨hlow, h⟩⟩
  have heq := booted_eq random ticksByCycle hfits hbytes
  have hpc : (booted random ticksByCycle (high :: low :: image)).pc = 512 := congrArg pc heq
  refine ⟨by unfold CanFetch; omega, ?_⟩
  exact word_eq_image (k := 0) hfits hbytes (by rw [heq]) (by simp only [List.length_cons]; omega)
    hpc

/-! ### Invariants -/

/-- What holds when a machine is switched on and survives every step holds of
    every reachable machine. -/
theorem Reachable.invariant {P : Machine ρ → Prop} {m : Machine ρ} (h : Reachable m)
    (hinit : ∀ random ticksByCycle, P (.initial random ticksByCycle))
    (hstep : ∀ (n : Machine ρ) (s : Step), P n → P (n.after s)) : P m := by
  induction h with
  | initial random ticksByCycle => exact hinit random ticksByCycle
  | after s _ ih => exact hstep _ s ih

end Machine

end Chip8
