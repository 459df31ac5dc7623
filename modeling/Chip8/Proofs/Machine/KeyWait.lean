import Chip8.Proofs.Keypad
import Chip8.Proofs.Machine.Timer

/-!
# Waiting for a Key

What a program does that waits for a key.

An instruction that waits is a cycle like any other, and completes whether a key is held or not.
Where none is, it takes back the two that the fetch has added to the program counter, so that the
next cycle finds the same word again. A machine that waits is therefore left as it was but for
what every cycle changes, and what one step keeps of it, any number of cycles and ticks keeps.
It makes no difference at which end of memory the word lies: the program counter is at two at
least by the time that it goes back.

Once keys are held, in whatever way they have come to be, the next cycle takes the lowest of
them, and does not release it.

## Main definitions

* `Machine.Waiting`: A machine before a wait with no key held.
* `Machine.Waited`: A machine after cycles and ticks that do nothing else.

## Theorems

* `Machine.Waiting.waited_cycle`, `Machine.Waited.tick`: One step of waiting.
* `Machine.Waiting.waited`: Waiting over a script.
* `Machine.Waited.cycle_awaitKey`: The cycle that takes a key.
* `Machine.waits_for_key`: A wait from its beginning to its end.
-/

namespace Chip8

namespace Machine

variable {ρ : Type}

/-- A machine is about to wait for a key, and none is held. -/
structure Waiting (m : Machine ρ) (x : Nibble) : Prop where
  fetches : m.Fetches (0xF00A + 256 * x.val)
  free : ∀ i, m.keypad.isHeld i = false

/-- A machine after a number of cycles and of ticks that have done nothing else to it. -/
structure Waited (m n : Machine ρ) (cycles ticks : Nat) : Prop where
  rest : ∃ delay sound lastWord, n =
    { m with
      delay := delay
      sound := sound
      cycles := m.cycles + cycles
      lastWord := lastWord }
  left : ∀ T : Timer, T.left n = max 0 (T.left m - (ticks : Int))

namespace Waited

theorem refl {m : Machine ρ} (h : ∀ T : Timer, 0 ≤ T.left m) : m.Waited m 0 0 := by
  refine ⟨⟨_, _, _, rfl⟩, fun T => ?_⟩
  have := h T
  omega

theorem tick {m : Machine ρ} (h : ∀ T : Timer, 0 ≤ T.left m) : m.Waited m.tick 0 1 :=
  ⟨⟨_, _, _, rfl⟩, fun T => T.left_tick (h T)⟩

/-- Two stretches of waiting make one, and their ticks add up. -/
theorem trans {m n k : Machine ρ} {c c' t t' : Nat} (h : m.Waited n c t) (h' : n.Waited k c' t') :
    m.Waited k (c + c') (t + t') := by
  refine ⟨?_, fun T => ?_⟩
  · rcases h.rest with ⟨_, _, _, hn⟩
    rcases h'.rest with ⟨_, _, _, hk⟩
    rw [hn] at hk
    simp only [Nat.add_assoc] at hk
    exact ⟨_, _, _, hk⟩
  · -- Two floors in a row are one.
    rw [h'.left, h.left]
    omega

theorem nonneg {m n : Machine ρ} {c t : Nat} (h : m.Waited n c t) (T : Timer) : 0 ≤ T.left n := by
  rw [h.left]
  omega

theorem ticksByCycle {m n : Machine ρ} {c t : Nat} (h : m.Waited n c t) :
    n.ticksByCycle = m.ticksByCycle := by
  rcases h.rest with ⟨_, _, _, hn⟩
  rw [hn]

theorem waiting {m n : Machine ρ} {c t : Nat} {x : Nibble} (h : m.Waited n c t)
    (hm : m.Waiting x) : n.Waiting x := by
  rcases h.rest with ⟨_, _, _, hn⟩
  rw [hn]
  exact ⟨hm.fetches, hm.free⟩

end Waited

variable [Source ρ]

namespace Waiting

/-- A cycle of a machine that waits comes to no more than its own end. -/
theorem cycle_eq {m : Machine ρ} {x : Nibble} (h : m.Waiting x) :
    m.cycle = .ok none (complete m.word m) := by
  have hlow := h.fetches.1.1
  have hnone : m.passed.keypad.lowest = none := Keypad.lowest_of_free h.free
  -- The fetch has added the two that are to be taken off, also at address zero.
  have hob : obstacle (.awaitKey x) m.passed = none := by
    unfold obstacle
    simp only [hnone]
    refine if_neg ?_
    change ¬ m.pc + 2 < 2
    omega
  have hback : applied (.awaitKey x) m.passed = m := by
    unfold applied
    simp only [hnone]
    unfold passed
    simp only [Int.add_sub_cancel]
  rw [h.fetches.cycle_ok (.awaitKey x) hob, hback, h.fetches.2]
  rfl

/-- A cycle that waits completes and comes back to its word. -/
theorem waited_cycle {m : Machine ρ} {x : Nibble} (h : m.Waiting x)
    (hleft : ∀ T : Timer, 0 ≤ T.left m) :
    perform .cycle m = .ok none (m.after .cycle) ∧
      m.Waited (m.after .cycle) 1 (if m.ticksByCycle = true then 1 else 0) := by
  have hafter : m.after .cycle = complete m.word m := by
    rw [after_cycle, h.cycle_eq, Action.final_ok]
  rw [hafter]
  exact ⟨h.cycle_eq, ⟨_, _, _, complete_eq m.word m⟩, fun T => T.left_complete _ (hleft T)⟩

/-- A machine that waits completes every cycle and stays where it is. Only the ticks go on, those
    that are asked for and those of the cycles. -/
theorem waited {m : Machine ρ} {x : Nibble} (h : m.Waiting x) (hleft : ∀ T : Timer, 0 ≤ T.left m)
    {wait : List Step} (hwait : ∀ s ∈ wait, s = .cycle ∨ s = .tick) :
    performAll wait m = .ok () (m.afterAll wait) ∧
      m.Waited (m.afterAll wait) (wait.count .cycle)
        (wait.count .tick + if m.ticksByCycle = true then wait.count .cycle else 0) := by
  -- A machine that has waited for one step still waits, so that the rest is waited in turn.
  induction wait generalizing m with
  | nil =>
      refine ⟨rfl, ?_⟩
      rw [List.count_nil, List.count_nil, ite_self]
      exact Waited.refl hleft
  | cons s wait ih =>
      have hlater : ∀ s' ∈ wait, s' = .cycle ∨ s' = .tick := fun s' hs' =>
        hwait s' (List.mem_cons_of_mem s hs')
      rw [afterAll_cons, performAll_cons]
      rcases hwait s List.mem_cons_self with rfl | rfl
      · rcases h.waited_cycle hleft with ⟨hok, hfirst⟩
        rcases ih (hfirst.waiting h) hfirst.nonneg hlater with ⟨hrest, hthen⟩
        have hticks : ∀ c t : Nat, (if m.ticksByCycle = true then 1 else 0) +
            (t + if m.ticksByCycle = true then c else 0) =
              t + if m.ticksByCycle = true then 1 + c else 0 := by
          intro c t
          cases m.ticksByCycle
          · exact Nat.zero_add t
          · exact Nat.add_left_comm 1 t c
        have hboth := hfirst.trans hthen
        rw [hfirst.ticksByCycle, hticks] at hboth
        rw [List.count_cons_self, List.count_cons_of_ne (by decide), Nat.add_comm _ 1]
        exact ⟨by rw [hok]; exact hrest, hboth⟩
      · have hfirst : m.Waited (m.after .tick) 0 1 := .tick hleft
        rcases ih (hfirst.waiting h) hfirst.nonneg hlater with ⟨hrest, hthen⟩
        have hboth := hfirst.trans hthen
        rw [hfirst.ticksByCycle, Nat.zero_add, ← Nat.add_assoc, Nat.add_comm 1] at hboth
        rw [List.count_cons_self, List.count_cons_of_ne (by decide)]
        exact ⟨hrest, hboth⟩

end Waiting

/-- A cycle that waits for a key takes the lowest that is held. -/
theorem Fetches.cycle_awaitKey {m : Machine ρ} {x : Nibble} {k : Fin 16}
    (hw : m.Fetches (0xF00A + 256 * x.val)) (hlow : m.keypad.lowest = some k) :
    m.cycle = .ok none (complete (0xF00A + 256 * x.val) (m.passed.assign x k.val)) := by
  have hlow' : m.passed.keypad.lowest = some k := hlow
  have hob : obstacle (.awaitKey x) m.passed = none := by
    unfold obstacle
    simp only [hlow']
  have htaken : applied (.awaitKey x) m.passed = m.passed.assign x k.val := by
    unfold applied
    simp only [hlow']
  rw [hw.cycle_ok (.awaitKey x) hob, htaken]
  rfl

/-- If keys are held after a wait, whatever has been done to them meanwhile, the next cycle takes
    the lowest and moves on. -/
theorem Waited.cycle_awaitKey {m n : Machine ρ} {c t : Nat} {x : Nibble} (h : m.Waited n c t)
    (hw : m.Fetches (0xF00A + 256 * x.val)) {keys : List Step}
    (hquiet : ∀ s ∈ keys, s.isQuiet = true) {S : Finset (Fin 16)} (hS : S.Nonempty)
    (hkeys : ∀ i, (n.afterAll keys).keypad.isHeld i = true ↔ i ∈ S) :
    ∃ n', (n.afterAll keys).cycle = .ok none n' ∧
      n'.value x = (S.min' hS).val ∧ (∀ y, y ≠ x → n'.value y = m.value y) ∧
      (∀ i, n'.keypad.isHeld i = true ↔ i ∈ S) ∧
      n' =
        { m with
          pc := m.pc + 2
          registers := n'.registers
          keypad := n'.keypad
          delay := n'.delay
          sound := n'.sound
          cycles := m.cycles + c + 1
          lastWord := some (0xF00A + 256 * x.val) } := by
  -- Neither waiting nor keys move the machine away from the word.
  rcases afterAll_quiet n hquiet with ⟨keypad, _, _, hafter⟩
  rw [hafter] at hkeys ⊢
  rcases h.rest with ⟨_, _, _, rfl⟩
  refine ⟨_, Fetches.cycle_awaitKey (x := x) hw (Keypad.lowest_eq_min' hS hkeys), ?_⟩
  rw [complete_eq]
  refine ⟨?_, fun y hy => ?_, hkeys, rfl⟩
  · exact (value_assign _ x x (Bytes.isByte_nibble _)).trans (if_pos rfl)
  · exact (value_assign _ x y (Bytes.isByte_nibble _)).trans (if_neg hy.symm)

/-- A reachable machine that comes to wait for a key while none is held completes any number of
    cycles, with ticks anywhere among them, and is left as it was, at the same address, but for
    the count of the cycles, their last word, and the timers, which go down by one with each
    tick. If keys are held after that, whichever have been pressed and released meanwhile, the
    next cycle puts the lowest of them into the register and moves on to the next word. It
    releases none of them. -/
theorem waits_for_key {m : Machine ρ} {x : Nibble} (h : Reachable m)
    (hw : m.Fetches (0xF00A + 256 * x.val)) (hfree : ∀ i, m.keypad.isHeld i = false)
    {wait : List Step} (hwait : ∀ s ∈ wait, s = .cycle ∨ s = .tick) :
    let n := m.afterAll wait
    performAll wait m = .ok () n ∧
    n =
      { m with
        delay := n.delay
        sound := n.sound
        cycles := m.cycles + wait.count .cycle
        lastWord := n.lastWord } ∧
    (∀ T : Timer, T.left n = max 0 (T.left m -
      ((wait.count .tick + if m.ticksByCycle = true then wait.count .cycle else 0 : Nat) : Int))) ∧
    ∀ keys, (∀ s ∈ keys, s.isQuiet = true) → ∀ (S : Finset (Fin 16)) (hS : S.Nonempty),
      (∀ i, (n.afterAll keys).keypad.isHeld i = true ↔ i ∈ S) →
        ∃ n', (n.afterAll keys).cycle = .ok none n' ∧
          n'.value x = (S.min' hS).val ∧ (∀ y, y ≠ x → n'.value y = m.value y) ∧
          (∀ i, n'.keypad.isHeld i = true ↔ i ∈ S) ∧
          n' =
            { m with
              pc := m.pc + 2
              registers := n'.registers
              keypad := n'.keypad
              delay := n'.delay
              sound := n'.sound
              cycles := m.cycles + wait.count .cycle + 1
              lastWord := some (0xF00A + 256 * x.val) } := by
  have hleft : ∀ T : Timer, 0 ≤ T.left m := fun T => T.left_nonneg (inBounds_of_reachable h)
  have hwaiting : m.Waiting x := ⟨hw, hfree⟩
  rcases hwaiting.waited hleft hwait with ⟨hall, hwaited⟩
  refine ⟨hall, ?_, hwaited.left, fun keys hquiet S hS => hwaited.cycle_awaitKey hw hquiet hS⟩
  rcases hwaited.rest with ⟨_, _, _, hn⟩
  rw [hn]

/-- A program whose only word waits for a key. With keys pressed and all released, and then two
    others pressed, the lower of the two is taken. -/
theorem booted_waits_for_key :
    ∃ m n' : Machine Replay, Reachable m ∧
      performAll [.cycle, .tick, .cycle] m = .ok () (m.afterAll [.cycle, .tick, .cycle]) ∧
      (m.afterAll [.cycle, .tick, .cycle]).pc = m.pc ∧
      ((m.afterAll [.cycle, .tick, .cycle]).afterAll
        [.setKey 16 true, .setKey 4 true, .releaseKeys, .setKey 11 true, .setKey 7 true]).cycle =
          .ok none n' ∧
      n'.value 3 = 7 ∧ n'.pc = m.pc + 2 := by
  have hreach := reachable_booted (⟨[7], 0⟩ : Replay) true [0xF3, 0x0A]
  have hrun :
      let m := booted (⟨[7], 0⟩ : Replay) true [0xF3, 0x0A]
      m.Fetches (0xF00A + 256 * (3 : Nibble).val) ∧ (∀ i, m.keypad.isHeld i = false) ∧
        ∀ i, ((m.afterAll [.cycle, .tick, .cycle]).afterAll
          [.setKey 16 true, .setKey 4 true, .releaseKeys, .setKey 11 true,
            .setKey 7 true]).keypad.isHeld i = true ↔ i ∈ ({7, 11} : Finset (Fin 16)) := by
    decide +kernel
  generalize booted (⟨[7], 0⟩ : Replay) true [0xF3, 0x0A] = m at hreach hrun
  rcases hrun with ⟨hw, hfree, hkeys⟩
  have hwait : ∀ s ∈ [Step.cycle, .tick, .cycle], s = .cycle ∨ s = .tick := by decide
  rcases waits_for_key hreach hw hfree hwait with ⟨hall, hn, -, htakes⟩
  rcases htakes _ (by decide) _ (by decide) hkeys with ⟨n', hn', hvalue, -, -, hrest⟩
  refine ⟨m, n', hreach, hall, by rw [hn], hn', hvalue.trans (by decide), by rw [hrest]⟩

end Machine

end Chip8
