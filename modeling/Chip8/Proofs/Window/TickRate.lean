import Chip8.Proofs.Machine.Timer
import Chip8.Proofs.Window.Trace

/-!
# The Rate of the Timers

How often the timers tick that go by frames.

There is one tick at the end of every frame that is completed, and none at any
other time: a frame that is cut short by a fault does not tick, keys and focus
do not, and no cycle of such a machine does. So in a second's worth of frames
there are as many ticks as the settings ask for frames a second. These are
sixty if and only if sixty frames are asked for; with two frames a second, a
timer that is set to 255 takes more than two minutes to run down instead of
four seconds.

## Main definitions

* `Window.completes`: Whether an event is a frame that is completed.
* `Window.frames`: How many frames are completed.

## Theorems

* `Machine.ticked_eq_count`: The ticks of a machine whose timers do not go by
  cycles.
* `Machine.count_tick_wholeFrame`: The ticks of a frame.
* `Window.count_tick_trace`: The ticks of a window.
* `Window.timers_tick_by_frames`: Ticks and timers over any number of frames.
-/

namespace Chip8

namespace Machine

variable {ρ : Type} [Source ρ]

theorem ticked_eq_count {m : Machine ρ} (h : m.ticksByCycle = false) (script : List Step) :
    m.ticked script = script.count .tick := by
  induction script generalizing m with
  | nil => rfl
  | cons s script ih =>
      have hafter : (m.after s).ticksByCycle = false :=
        (Moment.keeps_next ⟨m, s⟩).ticksByCycle.trans h
      have hfirst : Moment.ticks (⟨m, s⟩ : Moment ρ) = if s = .tick then 1 else 0 := by
        unfold Moment.ticks
        cases s with
        | cycle => simp only [h, Bool.false_eq_true, false_and, if_false, reduceCtorEq]
        | tick => rfl
        | _ => simp only [reduceCtorEq, if_false]
      rw [ticked_cons, ih hafter, hfirst, List.count_cons, Nat.add_comm]
      simp only [beq_iff_eq]

/-- A frame ticks at its end if its timers go by frames and none of its cycles
    has failed. -/
theorem count_tick_wholeFrame (t : Timing) (cycles : Nat) (m : Machine ρ) :
    (m.done (t.wholeFrame cycles)).count .tick =
      if t.mode = .perFrame ∧ (m.run cycles).fault = none then 1 else 0 := by
  have hcycles : (List.replicate cycles Step.cycle).count .tick = 0 :=
    List.count_replicate.trans (if_neg (by decide))
  unfold Timing.wholeFrame
  rw [done_append, performAll_cycles]
  cases (m.run cycles).fault with
  | some f =>
      -- What is done is a part of the cycles then.
      have hle := (m.done_prefix (List.replicate cycles .cycle)).sublist.count_le Step.tick
      simp only [reduceCtorEq, and_false, if_false]
      omega
  | none =>
      simp only [and_true]
      rw [List.count_append, hcycles, Nat.zero_add]
      by_cases hmode : t.mode = .perFrame
      · rw [if_pos hmode, if_pos hmode]
        rfl
      · rw [if_neg hmode, if_neg hmode]
        rfl

end Machine

namespace Window

variable {ρ : Type} [Source ρ]

/-- Whether an event is a frame that is completed: the timer fires while it
    runs, and no cycle fails. -/
def completes (w : Window ρ) : Event → Bool
  | .timeout => w.active && (w.machine.run (share w.timing w.credit).1).fault.isNone
  | _ => false

/-- How many frames are completed. -/
def frames (w : Window ρ) : List Event → Nat
  | [] => 0
  | e :: events => (if w.completes e then 1 else 0) + (w.after e).frames events

theorem count_tick_stepsOf {w : Window ρ} (h : w.timing.mode = .perFrame) (e : Event) :
    (w.machine.done (w.stepsOf e)).count .tick = if w.completes e then 1 else 0 := by
  -- No event but a frame asks for a tick.
  have hother : .tick ∉ w.stepsOf e →
      (w.machine.done (w.stepsOf e)).count .tick = 0 := fun hnot =>
    List.count_eq_zero.mpr fun hmem => hnot ((w.machine.done_prefix _).subset hmem)
  have hkey : ∀ code pressed repeated, .tick ∉ w.keySteps code pressed repeated := by
    intro code pressed repeated hmem
    unfold keySteps at hmem
    cases repeated with
    | true => cases hmem
    | false =>
        rcases List.mem_map.mp hmem with ⟨k, -, hk⟩
        cases hk
  cases e with
  | timeout =>
      unfold stepsOf completes
      simp only []
      by_cases hactive : w.active = true
      · rw [if_pos hactive, Machine.count_tick_wholeFrame, hactive]
        simp only [h, true_and, Bool.true_and, Option.isNone_iff_eq_none]
      · rw [if_neg hactive]
        simp only [hactive, Bool.false_and, Bool.false_eq_true, if_false]
        rfl
  | press code repeated => exact hother (hkey code true repeated)
  | release code repeated => exact hother (hkey code false repeated)
  | activation isActive =>
      refine hother fun hmem => ?_
      unfold stepsOf at hmem
      cases isActive with
      | true => cases hmem
      | false => cases List.mem_singleton.mp hmem
  | otherChange isActive => exact hother List.not_mem_nil
  | close => exact hother List.not_mem_nil

/-- With timers that go by frames there are as many ticks as completed frames. -/
theorem count_tick_trace {w : Window ρ} (h : w.timing.mode = .perFrame) (events : List Event) :
    (w.trace events).count .tick = w.frames events := by
  induction events generalizing w with
  | nil => rfl
  | cons e events ih =>
      have hafter : (w.after e).timing.mode = .perFrame := by
        rw [(w.window_after e).2]
        exact h
      rw [trace, List.count_append, count_tick_stepsOf h, ih hafter, frames]

/-- Whatever happens to a window while the frames of `k` seconds are completed, its
    timers tick once a frame. This makes sixty times a second only if the settings
    ask for sixty frames. A timer that is not set meanwhile goes down by one a
    frame, whatever the rate. -/
theorem timers_tick_by_frames [Palette] (s : Settings) (fallback : Int)
    (history : List Machine.Step) (b : Bindings) (before events : List Event) (k : Nat)
    (hmode : s.timing.mode = .perFrame)
    (hframes : ((opened s fallback history b).afterAll before).frames events =
      k * s.timing.framesPerSecond) :
    let w := (opened s fallback history b).afterAll before
    (w.trace events).count .tick = k * s.timing.framesPerSecond ∧
      ((w.trace events).count .tick = 60 * k ↔ k = 0 ∨ s.timing.framesPerSecond = 60) ∧
      ∀ T : Machine.Timer,
        (∀ t ∈ w.machine.course (w.trace events), t.set T = none) →
          T.left (w.afterAll events).machine =
            max 0 (T.left w.machine - (k * s.timing.framesPerSecond : Nat)) := by
  intro w
  -- The machine is one that was prepared, after what has been done to it before.
  have hmachine : w.machine = (Machine.prepared s fallback history).afterAll
      ((opened s fallback history b).trace before) := machine_afterAll _ before
  have htiming : w.timing.mode = .perFrame := by
    rw [timing_afterAll]
    exact hmode
  have hcount : (w.trace events).count .tick = k * s.timing.framesPerSecond :=
    (count_tick_trace htiming events).trans hframes
  refine ⟨hcount, ?_, ?_⟩
  · rw [hcount, Nat.mul_comm 60 k]
    constructor
    · intro hsame
      rcases Nat.eq_zero_or_pos k with hzero | hpos
      · exact Or.inl hzero
      · exact Or.inr (Nat.eq_of_mul_eq_mul_left hpos hsame)
    · rintro (hzero | hsixty)
      · rw [hzero, Nat.zero_mul, Nat.zero_mul]
      · rw [hsixty]
  · intro T hunset
    have hticks : w.machine.ticksByCycle = false := by
      rw [hmachine, Machine.ticksByCycle_afterAll, Machine.ticksByCycle_prepared, hmode]
      rfl
    have hlow : 0 ≤ T.left w.machine := by
      rw [hmachine]
      exact T.left_nonneg
        (Machine.inBounds_of_reachable ((Machine.reachable_prepared _ _ _).afterAll _))
    rw [machine_afterAll, Machine.left_afterAll T hlow _ hunset, Machine.ticked_eq_count hticks,
      hcount]

/-- A program that sets the delay timer to 255, at two frames a second. -/
theorem two_frames_tick_twice :
    let s : Settings := { Settings.default with timing := ⟨2, 2, .perFrame⟩ }
    let w := opened s 0 [.load [0x60, 0xFF, 0xF0, 0x15, 0x12, 0x04], .cycle, .cycle] ⟨[]⟩
    w.machine.delay = 255 ∧ (w.trace [.timeout, .timeout]).count .tick = 2 ∧
      (w.afterAll [.timeout, .timeout]).machine.delay = 253 := by
  intro s w
  have hrun : w.frames [.timeout, .timeout] = 1 * 2 ∧ w.machine.delay = 255 ∧
      ∀ t ∈ w.machine.course (w.trace [.timeout, .timeout]), t.set .delay = none := by
    decide +kernel
  rcases hrun with ⟨hframes, hset, hunset⟩
  have hsecond := timers_tick_by_frames s 0
    [.load [0x60, 0xFF, 0xF0, 0x15, 0x12, 0x04], .cycle, .cycle] ⟨[]⟩ [] [.timeout, .timeout] 1
    rfl hframes
  have hdelay := hsecond.2.2 .delay hunset
  refine ⟨hset, hsecond.1, hdelay.trans ?_⟩
  change max 0 (w.machine.delay - _) = 253
  rw [hset]
  rfl

/-- Timers that go by frames do not tick sixty times a second at every rate. -/
theorem not_always_sixty :
    ¬ ∀ (s : Settings) (fallback : Int) (history : List Machine.Step) (b : Bindings)
        (before events : List Event) (k : Nat),
      s.timing.mode = .perFrame → 1 ≤ s.timing.framesPerSecond →
      ((opened s fallback history b).afterAll before).frames events =
        k * s.timing.framesPerSecond →
      (((opened s fallback history b).afterAll before).trace events).count .tick = 60 * k := by
  intro hall
  let s : Settings := { Settings.default with timing := ⟨2, 2, .perFrame⟩ }
  let history : List Machine.Step :=
    [.load [0x60, 0xFF, 0xF0, 0x15, 0x12, 0x04], .cycle, .cycle]
  have hframes : ((opened s 0 history ⟨[]⟩).afterAll []).frames [.timeout, .timeout] = 1 * 2 := by
    decide +kernel
  have hsixty := hall s 0 history ⟨[]⟩ [] [.timeout, .timeout] 1 rfl (by decide) hframes
  rw [count_tick_trace rfl, hframes] at hsixty
  cases hsixty

end Window

end Chip8
