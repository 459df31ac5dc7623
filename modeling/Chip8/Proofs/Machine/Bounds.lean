import Chip8.Proofs.Machine.History

/-!
# Bounds

How far the numbers of a machine can go, whatever has been done to it.

The sizes of memory, registers, screen, stack and keypad are fixed by their
types. The cursors, the timers and the return addresses are integers or wider
words, and what keeps them in bounds is that the bounds feed each other. A
word is only fetched from below 4095, so the program counter is between 2 and
4096 when the instruction takes effect; a skip adds two to that, a call keeps
it as a return address, a wait takes back what the fetch has added. A timer is
set from a register, and a register is set from a timer only while the timer
is a byte.

## Main definitions

* `Machine.InBounds`: The bounds that carry each other through a history.
* `Machine.Valid`: These and the sizes and contents of the containers.

## Theorems

* `Machine.inBounds_applied`: An effect keeps the bounds.
* `Machine.inBounds_after`: Every step keeps them.
* `Machine.valid_of_reachable`: Every reachable machine is valid.
-/

namespace Chip8

/-- The bytes of memory as integers. -/
def Memory.bytes (m : Memory) : List Int :=
  m.cells.toList.map Bytes.toInt

/-- The values of the registers as integers. -/
def Registers.values (r : Registers) : List Int :=
  r.cells.toList.map Bytes.toInt

/-- The cells of the screen as whoever shows it gets them, row by row. -/
def Screen.frame (s : Screen) : List Nat :=
  s.cells.toList.map fun isLit => if isLit then 0xFFFFFFFF else 0

/-- A frame has no values between dark and lit. -/
theorem Screen.frame_canonical (s : Screen) : ∀ c ∈ s.frame, c = 0 ∨ c = 0xFFFFFFFF := by
  intro c hc
  rcases List.mem_map.mp hc with ⟨isLit, -, rfl⟩
  cases isLit
  · exact Or.inl rfl
  · exact Or.inr rfl

namespace Machine

variable {ρ : Type}

/-- The bounds of cursors, timers and return addresses. -/
structure InBounds (m : Machine ρ) : Prop where
  pc : 0 ≤ m.pc ∧ m.pc ≤ 4098
  index : 0 ≤ m.index ∧ m.index ≤ 0xFFFF
  live : ∀ a ∈ m.stack.live, 2 ≤ a ∧ a ≤ 4096
  delay : Bytes.IsByte m.delay
  sound : Bytes.IsByte m.sound

/-- The bounds, and the sizes and contents of all containers. -/
structure Valid (m : Machine ρ) : Prop extends InBounds m where
  memory_length : m.memory.bytes.length = 4096
  memory_isByte : ∀ v ∈ m.memory.bytes, Bytes.IsByte v
  registers_length : m.registers.values.length = 16
  registers_isByte : ∀ v ∈ m.registers.values, Bytes.IsByte v
  frame_length : m.screen.frame.length = 2048
  frame_canonical : ∀ c ∈ m.screen.frame, c = 0 ∨ c = 0xFFFFFFFF
  slots_length : m.stack.slots.toList.length = 16
  depth_le : m.stack.depth ≤ 16
  live_length : m.stack.live.length = m.stack.depth
  keys_length : m.keypad.held.toList.length = 16

/-- Bounds of the numbers are all that is not fixed by the types. -/
theorem InBounds.valid {m : Machine ρ} (h : InBounds m) : Valid m where
  toInBounds := h
  memory_length := by rw [Memory.bytes, List.length_map, Vector.length_toList]
  memory_isByte := by
    intro v hv
    rcases List.mem_map.mp hv with ⟨b, -, rfl⟩
    exact Bytes.isByte_toInt b
  registers_length := by rw [Registers.values, List.length_map, Vector.length_toList]
  registers_isByte := by
    intro v hv
    rcases List.mem_map.mp hv with ⟨b, -, rfl⟩
    exact Bytes.isByte_toInt b
  frame_length := by rw [Screen.frame, List.length_map, Vector.length_toList]
  frame_canonical := m.screen.frame_canonical
  slots_length := Vector.length_toList
  depth_le := m.stack.depth_le
  live_length := m.stack.length_live
  keys_length := Vector.length_toList

/-! ### Effects -/

/-- Past a word that was fetched there is room for one that is skipped. -/
theorem inBounds_skipWhen {m : Machine ρ} (hpc : m.pc ≤ 4096) (h : InBounds m) (p : Prop)
    [Decidable p] : InBounds (m.skipWhen p) := by
  unfold skipWhen
  by_cases hp : p
  · rw [if_pos hp]
    have hlow := h.pc.1
    exact ⟨⟨by simp only []; omega, by simp only []; omega⟩, h.index, h.live, h.delay, h.sound⟩
  · rw [if_neg hp]
    exact h

theorem inBounds_assign {m : Machine ρ} (h : InBounds m) (x : Nibble) (v : Int) :
    InBounds (m.assign x v) :=
  ⟨h.pc, h.index, h.live, h.delay, h.sound⟩

/-- A jump that is not refused leads into memory. -/
theorem inBounds_goto {m : Machine ρ} (h : InBounds m) {a : Int} (ha : Memory.IsAddress a) :
    InBounds { m with pc := a } := by
  unfold Memory.IsAddress Memory.size at ha
  exact ⟨⟨ha.1, by simp only []; omega⟩, h.index, h.live, h.delay, h.sound⟩

/-- The addresses below the top are within bounds as well. -/
theorem live_dropTop_bounds {m : Machine ρ} (h : InBounds m) :
    ∀ a ∈ m.stack.dropTop.live, 2 ≤ a ∧ a ≤ 4096 := by
  intro a ha
  rw [CallStack.live_dropTop] at ha
  exact h.live a (List.dropLast_subset _ ha)

/-- The address that a call puts on the stack is that of the word behind it. -/
theorem live_push_bounds {m : Machine ρ} (h : InBounds m) (hdepth : m.stack.depth < 16)
    (hpc : 2 ≤ m.pc ∧ m.pc ≤ 4096) : ∀ a ∈ (m.stack.push m.pc).live, 2 ≤ a ∧ a ≤ 4096 := by
  intro a ha
  rw [CallStack.live_push hdepth (by omega), List.mem_append, List.mem_singleton] at ha
  rcases ha with hold | hnew
  · exact h.live a hold
  · rw [hnew]
    exact hpc

theorem isAddress_of_jumpObstacle {a : Int} (h : jumpObstacle a = none) : Memory.IsAddress a := by
  unfold jumpObstacle at h
  by_cases ha : Memory.IsAddress a
  · exact ha
  · rw [if_neg ha] at h
    exact absurd h (Option.some_ne_none _)

/-- An effect keeps the bounds. The program counter has moved past the word by
    then, which is where its own bounds come from. -/
theorem inBounds_applied [Source ρ] (i : Instruction) {m : Machine ρ} (h : InBounds m)
    (hpc : 2 ≤ m.pc ∧ m.pc ≤ 4096) (hob : obstacle i m = none) : InBounds (applied i m) := by
  cases i with
  | clear => exact ⟨h.pc, h.index, h.live, h.delay, h.sound⟩
  | ret =>
      rw [obstacle] at hob
      cases hlast : m.stack.live.getLast? with
      | none =>
          rw [hlast] at hob
          exact absurd hob (Option.some_ne_none _)
      | some a =>
          rw [hlast] at hob
          have hgoto := inBounds_goto h (isAddress_of_jumpObstacle hob)
          rw [applied, hlast]
          exact ⟨hgoto.pc, h.index, live_dropTop_bounds h, h.delay, h.sound⟩
  | jump a => exact inBounds_goto h (isAddress_target a)
  | call a =>
      rw [obstacle] at hob
      by_cases hdepth : m.stack.depth < 16
      · have hgoto := inBounds_goto h (isAddress_target a)
        exact ⟨hgoto.pc, h.index, live_push_bounds h hdepth hpc, h.delay, h.sound⟩
      · rw [if_neg hdepth] at hob
        exact absurd hob (Option.some_ne_none _)
  | jumpFrom a =>
      rw [obstacle] at hob
      exact inBounds_goto h (isAddress_of_jumpObstacle hob)
  | skipIs x kk => exact inBounds_skipWhen hpc.2 h _
  | skipIsNot x kk => exact inBounds_skipWhen hpc.2 h _
  | skipSame x y => exact inBounds_skipWhen hpc.2 h _
  | skipDiffer x y => exact inBounds_skipWhen hpc.2 h _
  | skipHeld x => exact inBounds_skipWhen hpc.2 h _
  | skipFree x => exact inBounds_skipWhen hpc.2 h _
  | awaitKey x =>
      rw [applied]
      cases m.keypad.lowest with
      | some k => exact inBounds_assign h x k.val
      | none =>
          exact ⟨⟨by simp only []; omega, by simp only []; omega⟩, h.index, h.live, h.delay,
            h.sound⟩
  | setDelay x => exact ⟨h.pc, h.index, h.live, m.isByte_value x, h.sound⟩
  | setSound x => exact ⟨h.pc, h.index, h.live, h.delay, m.isByte_value x⟩
  | setIndex a =>
      have hlt := a.isLt
      exact ⟨h.pc, ⟨by simp only [applied]; omega, by simp only [applied]; omega⟩, h.live,
        h.delay, h.sound⟩
  | addIndex x =>
      exact ⟨h.pc, ⟨by simp only [applied]; omega, by simp only [applied]; omega⟩, h.live,
        h.delay, h.sound⟩
  | pointGlyph x =>
      exact ⟨h.pc, ⟨by simp only [applied]; omega, by simp only [applied]; omega⟩, h.live,
        h.delay, h.sound⟩
  -- What is left writes registers, memory or the screen, or does nothing.
  | _ =>
      rw [applied]
      exact ⟨h.pc, h.index, h.live, h.delay, h.sound⟩

theorem inBounds_abandoned (i : Instruction) {m : Machine ρ} (h : InBounds m) :
    InBounds (abandoned i m) := by
  cases i with
  | ret => exact ⟨h.pc, h.index, live_dropTop_bounds h, h.delay, h.sound⟩
  | _ => exact h

/-! ### Steps -/

/-- The fetch leaves the counter at two at least, which is why no wait for a key falls
    below zero. -/
theorem inBounds_passed {m : Machine ρ} (h : InBounds m) (hcan : m.CanFetch) :
    InBounds m.passed ∧ 2 ≤ m.passed.pc ∧ m.passed.pc ≤ 4096 := by
  unfold CanFetch at hcan
  have hpc : 2 ≤ m.passed.pc ∧ m.passed.pc ≤ 4096 := by
    unfold passed
    simp only []
    omega
  exact ⟨⟨⟨by omega, by omega⟩, h.index, h.live, h.delay, h.sound⟩, hpc⟩

theorem inBounds_tick {m : Machine ρ} (h : InBounds m) : InBounds m.tick := by
  have hdown : ∀ v : Int, Bytes.IsByte v → Bytes.IsByte (if 0 < v then v - 1 else v) := by
    intro v hv
    unfold Bytes.IsByte at *
    by_cases hpos : 0 < v
    · rw [if_pos hpos]
      omega
    · rw [if_neg hpos]
      exact hv
  exact ⟨h.pc, h.index, h.live, hdown _ h.delay, hdown _ h.sound⟩

theorem inBounds_complete (w : Int) {m : Machine ρ} (h : InBounds m) :
    InBounds (complete w m) := by
  have hcounted : InBounds { m with lastWord := some w, cycles := m.cycles + 1 } :=
    ⟨h.pc, h.index, h.live, h.delay, h.sound⟩
  unfold complete
  simp only []
  by_cases hticks : m.ticksByCycle = true
  · rw [if_pos hticks]
    exact inBounds_tick hcounted
  · rw [if_neg hticks]
    exact hcounted

/-- A cycle keeps the bounds, whether it completes or fails. -/
theorem inBounds_cycle [Source ρ] {m : Machine ρ} (h : InBounds m) :
    InBounds (Action.final (cycle m)) := by
  rw [cycle_eq]
  by_cases hcan : m.CanFetch
  · rw [if_pos hcan]
    have hpassed := inBounds_passed h hcan
    cases hob : obstacle m.instruction m.passed with
    | none => exact inBounds_complete _ (inBounds_applied _ hpassed.1 hpassed.2 hob)
    | some f => exact inBounds_abandoned _ hpassed.1
  · rw [if_neg hcan]
    exact h

/-- Every step keeps them. This is the step of the induction over histories. -/
theorem inBounds_after [Source ρ] (s : Step) {m : Machine ρ} (h : InBounds m) :
    InBounds (m.after s) := by
  cases s with
  | load image =>
      rw [after_load]
      exact ⟨h.pc, h.index, h.live, h.delay, h.sound⟩
  | cycle =>
      rw [after_cycle]
      exact inBounds_cycle h
  | tick =>
      rw [after_tick]
      exact inBounds_tick h
  | setKey key pressed =>
      rw [after_setKey]
      exact ⟨h.pc, h.index, h.live, h.delay, h.sound⟩
  | releaseKeys =>
      rw [after_releaseKeys]
      exact ⟨h.pc, h.index, h.live, h.delay, h.sound⟩

/-- They hold of a machine that was just built. -/
theorem inBounds_initial (random : ρ) (ticksByCycle : Bool) :
    InBounds (.initial random ticksByCycle) where
  pc := ⟨by change (0 : Int) ≤ 512; omega, by change (512 : Int) ≤ 4098; omega⟩
  index := ⟨Int.le_refl 0, by change (0 : Int) ≤ 0xFFFF; omega⟩
  live := by
    intro a ha
    exact absurd ha List.not_mem_nil
  delay := (by decide : Bytes.IsByte 0)
  sound := (by decide : Bytes.IsByte 0)

/-- And so they hold of every machine that steps lead to. -/
theorem inBounds_of_reachable [Source ρ] {m : Machine ρ} (h : Reachable m) : InBounds m :=
  h.invariant inBounds_initial fun _ s hn => inBounds_after s hn

/-- Every reachable machine is valid. -/
theorem valid_of_reachable [Source ρ] {m : Machine ρ} (h : Reachable m) : Valid m :=
  (inBounds_of_reachable h).valid

/-- Steps that are refused leave valid machines as well: here a key that there
    is not, and a return without a call. -/
theorem valid_after_refusals :
    Reachable (((booted (⟨[7], 0⟩ : Replay) true [0x00, 0xEE]).after (.setKey 16 true)).after
        .cycle) ∧
      Valid (((booted (⟨[7], 0⟩ : Replay) true [0x00, 0xEE]).after (.setKey 16 true)).after
        .cycle) :=
  have hreach := ((reachable_booted (⟨[7], 0⟩ : Replay) true [0x00, 0xEE]).after
    (.setKey 16 true)).after .cycle
  ⟨hreach, valid_of_reachable hreach⟩

end Machine

end Chip8
