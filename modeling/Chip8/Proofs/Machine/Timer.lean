import Chip8.Proofs.Machine.Bounds
import Chip8.Proofs.Machine.Course

/-!
# Timers

What a timer shows after a run.

A timer is set by one instruction, from a register, and goes down by one with
every tick until it is at zero. There is a tick whenever whoever drives the
machine asks for one, and one at the end of every cycle that completes if the
timers go by cycles. The tick of a cycle comes after the effect of its
instruction: a timer that is set has gone down by the end of the same cycle,
and what an instruction reads of a timer is what was there before.

So a timer shows what it was last set to less the ticks from then on, those of
the cycle that has set it included. It stops at zero, and since it does not go
below, where it stops does not depend on how the ticks are spread: the floor at
each step is the floor of the whole.

## Main definitions

* `Machine.Timer`: The two timers.
* `Machine.Timer.left`: What a timer shows.
* `Machine.Moment.set`: What a timer is set to at a moment.
* `Machine.Moment.ticks`, `Machine.ticked`: The ticks of a step and of a script.

## Theorems

* `Machine.Timer.left_tick`, `Machine.Timer.left_applied`,
  `Machine.Timer.left_complete`: What ticks, effects and the end of a cycle make
  of a timer.
* `Machine.Moment.left_next`: What a step makes of it.
* `Machine.left_afterAll`: What a script makes of it that does not set it.
* `Machine.left_afterAll_of_set`: What is left since it was last set.
* `Machine.timers_count_down`: Timers over any run.
-/

namespace Chip8

namespace Machine

variable {ρ : Type}

/-- The timers. -/
inductive Timer where
  | delay
  | sound
  deriving DecidableEq, Repr

namespace Timer

/-- What a timer shows. -/
def left : Timer → Machine ρ → Int
  | delay, m => m.delay
  | sound, m => m.sound

/-- The register from which an instruction sets a timer. -/
def register : Timer → Instruction → Option Nibble
  | delay, .setDelay x => some x
  | sound, .setSound x => some x
  | _, _ => none

theorem left_nonneg (T : Timer) {m : Machine ρ} (hb : InBounds m) : 0 ≤ T.left m := by
  cases T with
  | delay => exact hb.delay.1
  | sound => exact hb.sound.1

theorem left_passed (T : Timer) (m : Machine ρ) : T.left m.passed = T.left m := by
  cases T <;> rfl

/-- A tick takes one off, down to zero. -/
theorem left_tick (T : Timer) {m : Machine ρ} (h : 0 ≤ T.left m) :
    T.left m.tick = max 0 (T.left m - 1) := by
  have htick : T.left m.tick = if 0 < T.left m then T.left m - 1 else T.left m := by
    cases T <;> rfl
  rw [htick]
  by_cases hpos : 0 < T.left m
  · rw [if_pos hpos]
    omega
  · rw [if_neg hpos]
    omega

/-- An effect sets the timer that its instruction is about, and no other. -/
theorem left_applied [Source ρ] (T : Timer) (i : Instruction) (m : Machine ρ) :
    T.left (applied i m) = ((T.register i).map m.value).getD (T.left m) := by
  have hskip : ∀ (p : Prop) [Decidable p], T.left (m.skipWhen p) = T.left m := by
    intro p _
    rw [skipWhen_eq]
    cases T <;> rfl
  cases i with
  | skipIs x kk => exact (hskip _).trans (by cases T <;> rfl)
  | skipIsNot x kk => exact (hskip _).trans (by cases T <;> rfl)
  | skipSame x y => exact (hskip _).trans (by cases T <;> rfl)
  | skipDiffer x y => exact (hskip _).trans (by cases T <;> rfl)
  | skipHeld x => exact (hskip _).trans (by cases T <;> rfl)
  | skipFree x => exact (hskip _).trans (by cases T <;> rfl)
  | awaitKey x =>
      rw [applied]
      cases m.keypad.lowest <;> cases T <;> rfl
  | restore x =>
      -- The block is not to be worked out.
      unfold applied
      generalize m.registers.fill _ = restored
      cases T <;> rfl
  | _ => cases T <;> rfl

/-- The end of a cycle is a tick if timers go by cycles. -/
theorem left_complete (T : Timer) (w : Int) {m : Machine ρ} (h : 0 ≤ T.left m) :
    T.left (complete w m) =
      max 0 (T.left m - ((if m.ticksByCycle = true then 1 else 0 : Nat) : Int)) := by
  have hend : T.left (complete w m) =
      if m.ticksByCycle = true then T.left m.tick else T.left m := by
    rw [complete_eq]
    cases T <;> rfl
  rw [hend]
  by_cases hticks : m.ticksByCycle = true
  · rw [if_pos hticks, if_pos hticks, left_tick T h]
    rfl
  · rw [if_neg hticks, if_neg hticks]
    omega

end Timer

variable [Source ρ]

/-! ### Steps -/

namespace Moment

/-- What a timer is set to, if an instruction is executed that sets it: the value
    of its register before the cycle. -/
def set (T : Timer) (t : Moment ρ) : Option Int :=
  (t.executed.bind T.register).map t.machine.value

/-- How many ticks there are: one for a step that is a tick, and one for a cycle
    that completes if the timers go by cycles. -/
def ticks (t : Moment ρ) : Nat :=
  match t.step with
  | .tick => 1
  | .cycle => if t.machine.ticksByCycle = true ∧ t.executed.isSome = true then 1 else 0
  | _ => 0

theorem set_of_ne_cycle (T : Timer) {t : Moment ρ} (h : t.step ≠ .cycle) : t.set T = none := by
  unfold set
  rw [executed_of_ne_cycle h]
  rfl

/-- What a timer is set to is the content of a register. -/
theorem set_nonneg {T : Timer} {t : Moment ρ} {v : Int} (h : t.set T = some v) : 0 ≤ v := by
  rcases Option.map_eq_some_iff.mp h with ⟨x, -, rfl⟩
  exact (t.machine.isByte_value x).1

theorem left_of_idle (T : Timer) {t : Moment ρ} (hstep : t.step = .cycle)
    (h : t.executed = none) : T.left t.next = T.left t.machine := by
  rcases next_of_idle hstep h with hnext | ⟨-, hnext⟩
  · rw [hnext]
  · rw [hnext, ← T.left_passed t.machine]
    cases t.machine.instruction <;> cases T <;> rfl

/-- What a step makes of a timer: it is set or not, and then there are ticks or
    not. -/
theorem left_next (T : Timer) {t : Moment ρ} (h : 0 ≤ T.left t.machine) :
    T.left t.next = max 0 ((t.set T).getD (T.left t.machine) - (t.ticks : Int)) := by
  rcases t with ⟨m, s⟩
  -- What comes of a timer that stays as it is.
  have hstill : T.left m = max 0 (T.left m - ((0 : Nat) : Int)) := by
    change 0 ≤ T.left m at h
    omega
  cases s with
  | cycle =>
      cases hexec : (⟨m, .cycle⟩ : Moment ρ).executed with
      | none =>
          rw [left_of_idle T rfl hexec, set, ticks, hexec]
          simp only [Option.isSome_none, Bool.false_eq_true, and_false, if_false]
          exact hstill
      | some i =>
          have hset : (⟨m, .cycle⟩ : Moment ρ).set T = (T.register i).map m.value := by
            rw [set, hexec]
            rfl
          have heffect : T.left (applied i m.passed) =
              ((⟨m, .cycle⟩ : Moment ρ).set T).getD (T.left m) := by
            rw [hset, Timer.left_applied, Timer.left_passed]
            rfl
          have hlow : 0 ≤ T.left (applied i m.passed) := by
            rw [heffect]
            cases hv : (⟨m, .cycle⟩ : Moment ρ).set T with
            | none => exact h
            | some v => exact set_nonneg hv
          rw [next_of_executed hexec, Timer.left_complete T _ hlow, heffect,
            (kept_applied i m.passed).ticksByCycle, ticks, hexec]
          simp only [Option.isSome_some, and_true]
          rfl
  | tick =>
      rw [set_of_ne_cycle T (by simp only [ne_eq, reduceCtorEq, not_false_eq_true])]
      exact Timer.left_tick T h
  | load image =>
      have hleft : T.left (m.after (.load image)) = T.left m := by
        rw [after_load]
        cases T <;> rfl
      rw [set_of_ne_cycle T (by simp only [ne_eq, reduceCtorEq, not_false_eq_true])]
      exact hleft.trans hstill
  | setKey key pressed =>
      have hleft : T.left (m.after (.setKey key pressed)) = T.left m := by
        rw [after_setKey]
        cases T <;> rfl
      rw [set_of_ne_cycle T (by simp only [ne_eq, reduceCtorEq, not_false_eq_true])]
      exact hleft.trans hstill
  | releaseKeys =>
      have hleft : T.left (m.after .releaseKeys) = T.left m := by
        cases T <;> rfl
      rw [set_of_ne_cycle T (by simp only [ne_eq, reduceCtorEq, not_false_eq_true])]
      exact hleft.trans hstill

end Moment

/-! ### Scripts -/

/-- The ticks of a script. -/
def ticked (m : Machine ρ) (script : List Step) : Nat :=
  ((m.course script).map Moment.ticks).sum

theorem ticked_cons (m : Machine ρ) (s : Step) (script : List Step) :
    m.ticked (s :: script) = Moment.ticks ⟨m, s⟩ + (m.after s).ticked script :=
  List.sum_cons

/-- Over a script that does not set it, a timer goes down by its ticks and stops at zero. -/
theorem left_afterAll (T : Timer) {m : Machine ρ} (h : 0 ≤ T.left m) (script : List Step)
    (hunset : ∀ t ∈ m.course script, t.set T = none) :
    T.left (m.afterAll script) = max 0 (T.left m - (m.ticked script : Int)) := by
  induction script generalizing m with
  | nil =>
      change T.left m = max 0 (T.left m - ((0 : Nat) : Int))
      omega
  | cons s script ih =>
      have hfirst : T.left (m.after s) = max 0 (T.left m - (Moment.ticks ⟨m, s⟩ : Int)) := by
        have hnext := Moment.left_next T (t := ⟨m, s⟩) h
        rw [hunset ⟨m, s⟩ List.mem_cons_self] at hnext
        exact hnext
      have hrest := ih (m := m.after s) (by omega) fun t ht =>
        hunset t (List.mem_cons_of_mem _ ht)
      rw [afterAll_cons, hrest, ticked_cons, hfirst]
      -- Two floors in a row are one.
      omega

/-- A timer that was set shows what it was set to less the ticks since, those of
    the step that has set it included. -/
theorem left_afterAll_of_set (T : Timer) {m : Machine ρ} (h : 0 ≤ T.left m) {s : Step} {v : Int}
    (hset : Moment.set T ⟨m, s⟩ = some v) (rest : List Step)
    (hunset : ∀ t ∈ (m.after s).course rest, t.set T = none) :
    T.left (m.afterAll (s :: rest)) = max 0 (v - (m.ticked (s :: rest) : Int)) := by
  have hfirst : T.left (m.after s) = max 0 (v - (Moment.ticks ⟨m, s⟩ : Int)) := by
    have hnext := Moment.left_next T (t := ⟨m, s⟩) h
    rw [hset] at hnext
    exact hnext
  rw [afterAll_cons, left_afterAll T (m := m.after s) (by omega) rest hunset, ticked_cons, hfirst]
  omega

/-- Reading the delay timer puts what it shows before the tick of the cycle into
    the register. -/
theorem Moment.value_of_getDelay {t : Moment ρ} {x : Nibble}
    (h : t.executed = some (.getDelay x)) : t.next.value x = t.machine.delay := by
  rcases (executed_eq_some_iff t _).mp h with ⟨-, -, -, hob⟩
  -- The timer is a byte, or the effect would have been refused.
  have hbyte : Bytes.IsByte t.machine.delay := by
    by_contra hno
    have hrefused : obstacle (.getDelay x) t.machine.passed = some _ := if_neg hno
    rw [hrefused] at hob
    cases hob
  rw [next_of_executed h, complete_eq]
  exact (value_assign t.machine.passed x x hbyte).trans (if_pos rfl)

/-- After any run from a reachable machine, a timer shows what it was last set to
    less the ticks since, the tick of the cycle that has set it included, and what
    it showed at first less all ticks if it has never been set. It does not go
    below zero. An instruction that reads a timer gets what was there before the
    tick of its own cycle, and a cycle that is refused leaves both timers alone and
    counts no tick. -/
theorem timers_count_down {m : Machine ρ} (h : Reachable m) (script : List Step) :
    (∀ T : Timer,
      0 ≤ T.left (m.afterAll script) ∧
      ((∀ t ∈ m.course script, t.set T = none) →
        T.left (m.afterAll script) = max 0 (T.left m - (m.ticked script : Int))) ∧
      (∀ before s rest v, script = before ++ s :: rest →
        Moment.set T ⟨m.afterAll before, s⟩ = some v →
        (∀ t ∈ ((m.afterAll before).after s).course rest, t.set T = none) →
          T.left (m.afterAll script) =
            max 0 (v - ((m.afterAll before).ticked (s :: rest) : Int))) ∧
      ∀ f m', (m.afterAll script).cycle = .error f m' →
        T.left m' = T.left (m.afterAll script) ∧
          Moment.ticks ⟨m.afterAll script, .cycle⟩ = 0) ∧
    ∀ x, Moment.executed ⟨m.afterAll script, .cycle⟩ = some (.getDelay x) →
      ((m.afterAll script).after .cycle).value x = (m.afterAll script).delay := by
  -- The last part is about one cycle of whatever machine the script has led to.
  have hread : ∀ (n : Machine ρ) (x : Nibble),
      Moment.executed ⟨n, .cycle⟩ = some (.getDelay x) → (n.after .cycle).value x = n.delay := by
    intro n x hexec
    have hvalue := Moment.value_of_getDelay (t := ⟨n, .cycle⟩) hexec
    rwa [Moment.next] at hvalue
  refine ⟨fun T => ⟨?_, ?_, ?_, ?_⟩, hread (m.afterAll script)⟩
  · exact T.left_nonneg (inBounds_of_reachable (h.afterAll script))
  · exact left_afterAll T (T.left_nonneg (inBounds_of_reachable h)) script
  · rintro before s rest v rfl hset hunset
    have hlow := T.left_nonneg (inBounds_of_reachable (h.afterAll before))
    rw [afterAll_append]
    exact left_afterAll_of_set T hlow hset rest hunset
  · intro f m' herr
    have hidle : Moment.executed ⟨m.afterAll script, .cycle⟩ = none := by
      unfold Moment.executed
      simp only [herr]
    have hleft := Moment.left_of_idle T (t := ⟨m.afterAll script, .cycle⟩) rfl hidle
    change T.left (Action.final (m.afterAll script).cycle) = _ at hleft
    rw [herr] at hleft
    refine ⟨hleft, ?_⟩
    unfold Moment.ticks
    simp only [hidle, Option.isSome_none, Bool.false_eq_true, and_false, if_false]

/-- A program that sets the delay timer to five: one tick in the same cycle, and
    one that is asked for. -/
theorem booted_delay_counts_down :
    ∃ m : Machine Replay, Reachable m ∧
      Moment.set .delay ⟨m.afterAll [.cycle], .cycle⟩ = some 5 ∧
      (m.afterAll [.cycle, .cycle, .tick]).delay = 3 := by
  have hreach := reachable_booted (⟨[7], 0⟩ : Replay) true [0x61, 0x05, 0xF1, 0x15]
  have hrun : Moment.set .delay
        ⟨(booted (⟨[7], 0⟩ : Replay) true [0x61, 0x05, 0xF1, 0x15]).afterAll [.cycle], .cycle⟩ =
          some 5 ∧
      ((booted (⟨[7], 0⟩ : Replay) true [0x61, 0x05, 0xF1, 0x15]).afterAll [.cycle]).ticked
        [.cycle, .tick] = 2 := by
    decide +kernel
  generalize booted (⟨[7], 0⟩ : Replay) true [0x61, 0x05, 0xF1, 0x15] = m at hreach hrun
  rcases hrun with ⟨hset, hticked⟩
  refine ⟨m, hreach, hset, ?_⟩
  have hleft := ((timers_count_down hreach [.cycle, .cycle, .tick]).1 .delay).2.2.1
    [.cycle] .cycle [.tick] 5 rfl hset ?_
  · rw [hticked] at hleft
    exact hleft
  · intro t ht
    rw [List.mem_singleton.mp ht]
    exact Moment.set_of_ne_cycle .delay (by simp only [ne_eq, reduceCtorEq, not_false_eq_true])

end Machine

end Chip8
