import Chip8.Machine.Build
import Chip8.Proofs.Machine.Course
import Chip8.Proofs.Machine.Halting
import Chip8.Window

/-!
# The Pace of the Window

A window that nobody touches runs its machine as if there were no frames.

The share of a frame is rounded down and what is left over is carried to the
next, so after `n` frames as many cycles have been due as the rates allow for
`n` frames at once, whatever the rates. Cut at the ends of the frames, the
cycles are the ones of a single loop; with timers that go by frames there is a
tick at each cut, and none anywhere else. The first fault ends the loop, and it
ends the frame and the timer with it: the rest of the frame is not run, the
frame does not tick, and later frames do not come about.

## Main definitions

* `Timing.due`, `Timing.leftOver`: The cycles that are due after a number of
  frames, and what is left over then.
* `Timing.wholeFrame`: What is done in a frame.
* `Timing.frameSteps`, `Timing.steps`: The same for the frame after a number of
  frames, and for all frames up to it.
* `Window.fired`: The window after its timer has been due a number of times.
* `Window.Follows`: The window has come as far as a run of its machine.
* `Window.opened`: A window that has been started over the machine that its
  settings ask for.

## Theorems

* `Timing.share_eq`: The share of a frame and what it leaves over.
* `Machine.performAll_cycles`, `Machine.performAll_wholeFrame`: The loop of a
  frame, and a frame.
* `Window.follows_timeout`, `Window.follows_fired`: The window follows its
  machine.
* `Window.fired_eq_run`: Frames make no difference.
-/

namespace Chip8

namespace Timing

/-- The cycles that are due after a number of frames. -/
def due (t : Timing) (n : Nat) : Nat :=
  n * t.cyclesPerSecond / t.framesPerSecond

/-- What is left over after a number of frames. -/
def leftOver (t : Timing) (n : Nat) : Nat :=
  n * t.cyclesPerSecond % t.framesPerSecond

/-- What is done in a frame of a number of cycles. -/
def wholeFrame (t : Timing) (cycles : Nat) : List Machine.Step :=
  List.replicate cycles .cycle ++ if t.mode = .perFrame then [.tick] else []

/-- What is done in the frame after the first `n`. -/
def frameSteps (t : Timing) (n : Nat) : List Machine.Step :=
  List.replicate (t.due (n + 1) - t.due n) .cycle ++ if t.mode = .perFrame then [.tick] else []

/-- What is done in the first `n` frames. -/
def steps (t : Timing) (n : Nat) : List Machine.Step :=
  (List.range n).flatMap t.frameSteps

theorem due_mono (t : Timing) {j n : Nat} (h : j ≤ n) : t.due j ≤ t.due n :=
  Nat.div_le_div_right (Nat.mul_le_mul_right _ h)

/-- The share of a frame is what is due after it and was not before, and what
    it leaves over is left over by all frames up to it. -/
theorem share_eq (t : Timing) (n : Nat) :
    Window.share t (t.leftOver n) = (t.due (n + 1) - t.due n, t.leftOver (n + 1)) := by
  -- One more frame on top of what the frames so far have come to.
  have hsplit : (n + 1) * t.cyclesPerSecond =
      t.framesPerSecond * t.due n + (t.leftOver n + t.cyclesPerSecond) := by
    have hdiv : t.framesPerSecond * t.due n + t.leftOver n = n * t.cyclesPerSecond :=
      Nat.div_add_mod _ _
    rw [Nat.succ_mul]
    omega
  have hdue : t.due (n + 1) - t.due n = (t.leftOver n + t.cyclesPerSecond) / t.framesPerSecond := by
    rw [due, hsplit]
    rcases Nat.eq_zero_or_pos t.framesPerSecond with hzero | hpos
    · simp only [hzero, Nat.div_zero, Nat.zero_sub]
    · rw [Nat.mul_add_div hpos, Nat.add_sub_cancel_left]
  have hleft : t.leftOver (n + 1) = (t.leftOver n + t.cyclesPerSecond) % t.framesPerSecond := by
    rw [leftOver, hsplit, Nat.mul_add_mod]
  rw [hdue, hleft]
  rfl

theorem steps_succ (t : Timing) (n : Nat) : t.steps (n + 1) = t.steps n ++ t.frameSteps n := by
  unfold steps
  rw [List.range_succ, List.flatMap_append, List.flatMap_singleton]

/-- Ticks left out, what is done is the cycles that are due. -/
theorem steps_cycles (t : Timing) (n : Nat) :
    (t.steps n).filter (· = .cycle) = List.replicate (t.due n) .cycle := by
  induction n with
  | zero =>
      rw [due, Nat.zero_mul, Nat.zero_div]
      rfl
  | succ n ih =>
      have hle : t.due n ≤ t.due (n + 1) := t.due_mono (Nat.le_succ n)
      have hframe : (t.frameSteps n).filter (· = .cycle) =
          List.replicate (t.due (n + 1) - t.due n) .cycle := by
        unfold frameSteps
        rw [List.filter_append, List.filter_replicate_of_pos (by decide)]
        by_cases h : t.mode = .perFrame
        · rw [if_pos h]
          exact List.append_nil _
        · rw [if_neg h]
          exact List.append_nil _
      rw [steps_succ, List.filter_append, ih, hframe, List.replicate_append_replicate]
      congr 1
      omega

example : (⟨5, 2, .perFrame⟩ : Timing).steps 2 =
    [.cycle, .cycle, .tick, .cycle, .cycle, .cycle, .tick] := by decide

/-- With timers that go by cycles, there is nothing else. -/
theorem steps_of_perCycle {t : Timing} (h : t.mode = .perCycle) (n : Nat) :
    t.steps n = List.replicate (t.due n) .cycle := by
  rw [← steps_cycles, List.filter_eq_self.mpr]
  intro s hs
  rcases List.mem_flatMap.mp hs with ⟨k, -, hk⟩
  unfold frameSteps at hk
  rw [h, if_neg (by decide), List.append_nil] at hk
  exact decide_eq_true (List.eq_of_mem_replicate hk)

end Timing

namespace Machine

variable {ρ : Type} [Source ρ]

/-- A loop of cycles, as it is run in a frame. -/
theorem performAll_cycles (k : Nat) (m : Machine ρ) :
    performAll (List.replicate k .cycle) m =
      match (m.run k).fault with
      | none => .ok () (m.run k).machine
      | some f => .error f (m.run k).machine := by
  induction k generalizing m with
  | zero => rfl
  | succ k ih =>
      rw [List.replicate_succ, performAll_cons, show perform .cycle m = m.cycle from rfl]
      unfold run
      cases m.cycle with
      | ok notice m' => exact ih m'
      | error f m' => rfl

/-- A frame is a loop of cycles, with a tick behind it if timers go by frames. -/
theorem performAll_wholeFrame (t : Timing) (cycles : Nat) (m : Machine ρ) :
    performAll (t.wholeFrame cycles) m =
      match (m.run cycles).fault with
      | none =>
        .ok () (if t.mode = .perFrame then (m.run cycles).machine.tick else (m.run cycles).machine)
      | some f => .error f (m.run cycles).machine := by
  unfold Timing.wholeFrame
  rw [performAll_append, performAll_cycles]
  cases (m.run cycles).fault with
  | some f => rfl
  | none =>
      by_cases h : t.mode = .perFrame
      · rw [if_pos h, if_pos h]
        rfl
      · rw [if_neg h, if_neg h]
        rfl

/-- The machine that settings ask for, after what has been done to it before
    there is a window. -/
def prepared (s : Settings) (fallback : Int) (history : List Step) : Machine Generator :=
  (build s fallback).afterAll history

theorem reachable_prepared (s : Settings) (fallback : Int) (history : List Step) :
    Reachable (prepared s fallback history) :=
  (Reachable.initial _ _).afterAll history

theorem ticksByCycle_prepared (s : Settings) (fallback : Int) (history : List Step) :
    (prepared s fallback history).ticksByCycle = (s.timing.mode != .perFrame) := by
  unfold prepared
  rw [ticksByCycle_afterAll]
  rfl

end Machine

namespace Window

variable {ρ : Type} [Source ρ]

/-- The window after its timer has been due a number of times. -/
def fired : Nat → Window ρ → Window ρ
  | 0, w => w
  | n + 1, w => (fired n w).timeout.window

/-- The window has come as far as a run of its machine, and the timer runs as
    long as nothing has failed. -/
def Follows (w : Window ρ) (t : Timing) (n : Nat) :
    EStateM.Result Fault (Machine ρ) Unit → Prop
  | .ok _ m => w.machine = m ∧ w.timing = t ∧ w.credit = t.leftOver n ∧ w.active = true
  | .error _ m => w.machine = m ∧ w.active = false

/-- A frame does its steps, and nothing escapes from it. -/
theorem follows_frame {w : Window ρ} {n : Nat} (h : Machine.Reachable w.machine)
    (hcredit : w.credit = w.timing.leftOver n) (hactive : w.active = true) :
    w.frame.window.Follows w.timing (n + 1)
        (Machine.performAll (w.timing.frameSteps n) w.machine) ∧
      w.frame.fault = none := by
  rw [show w.timing.frameSteps n = w.timing.wholeFrame _ from rfl, Machine.performAll_wholeFrame]
  unfold frame
  rw [hcredit, Timing.share_eq]
  simp only []
  cases hf : (w.machine.run (w.timing.due (n + 1) - w.timing.due n)).fault with
  | none => exact ⟨⟨rfl, rfl, rfl, hactive⟩, rfl⟩
  | some f =>
      simp only []
      rw [if_pos (Machine.run_halts (Machine.inBounds_of_reachable h).delay hf)]
      exact ⟨⟨rfl, rfl⟩, rfl⟩

/-- When the timer is due once more, the window goes on by a frame, unless
    something has failed. -/
theorem follows_timeout {w : Window ρ} {t : Timing} {n : Nat} {m : Machine ρ}
    (hreach : Machine.Reachable m) (h : w.Follows t n (Machine.performAll (t.steps n) m)) :
    w.timeout.window.Follows t (n + 1) (Machine.performAll (t.steps (n + 1)) m) ∧
      w.timeout.fault = none := by
  have hsofar := hreach.performAll (t.steps n)
  rw [Timing.steps_succ, Machine.performAll_append]
  unfold timeout
  cases hrun : Machine.performAll (t.steps n) m with
  | ok u m' =>
      rw [hrun] at h hsofar
      rcases h with ⟨rfl, rfl, hcredit, hactive⟩
      rw [if_pos hactive]
      exact follows_frame hsofar hcredit hactive
  | error f m' =>
      rw [hrun] at h
      have hstopped : ¬ w.active = true := by
        rw [h.2]
        decide
      rw [if_neg hstopped]
      exact ⟨h, rfl⟩

/-- A window that has been started and is left to itself follows its machine. -/
theorem follows_fired [Palette] {m : Machine ρ} (h : Machine.Reachable m) (s : Settings)
    (b : Bindings) (n : Nat) :
    (fired n (make m s b).start).Follows s.timing n
      (Machine.performAll (s.timing.steps n) m) := by
  induction n with
  | zero =>
      refine ⟨rfl, rfl, ?_, rfl⟩
      rw [Timing.leftOver, Nat.zero_mul, Nat.zero_mod]
      rfl
  | succ n ih => exact (follows_timeout h ih).1

omit [Source ρ] in
theorem Follows.inactive_iff {w : Window ρ} {t : Timing} {n : Nat}
    {r : EStateM.Result Fault (Machine ρ) Unit} (h : w.Follows t n r) :
    w.active = false ↔ ∃ f m, r = .error f m := by
  cases r with
  | ok u m =>
      rw [h.2.2.2]
      simp only [reduceCtorEq, exists_false]
  | error f m => exact ⟨fun _ => ⟨f, m, rfl⟩, fun _ => h.2⟩

omit [Source ρ] in
theorem Follows.machine_eq {w : Window ρ} {t : Timing} {n : Nat}
    {r : EStateM.Result Fault (Machine ρ) Unit} (h : w.Follows t n r) :
    w.machine = Action.final r := by
  cases r with
  | ok u m => exact h.1
  | error f m => exact h.1

/-- A window that has been started over the machine that the same settings ask
    for. -/
def opened [Palette] (s : Settings) (fallback : Int) (history : List Machine.Step)
    (b : Bindings) : Window Generator :=
  (make (Machine.prepared s fallback history) s b).start

/-- However many times the timer of an untouched window has been due, its
    machine is where a single loop would have brought it, and the timer has
    stopped if the loop has failed. With timers that go by cycles it is a loop
    of the cycles that are due by then. With timers that go by frames there is
    a tick at the end of each frame besides, and no cycle ticks. Nothing escapes
    from a frame. -/
theorem fired_eq_run [Palette] (s : Settings) (fallback : Int) (history : List Machine.Step)
    (b : Bindings) (n : Nat) :
    let m := Machine.prepared s fallback history
    let w := fired n (opened s fallback history b)
    (s.timing.mode = .perCycle →
      let cycles := List.replicate (s.timing.due n) Machine.Step.cycle
      w.machine = Action.final (Machine.performAll cycles m) ∧
        (w.active = false ↔ ∃ f m', Machine.performAll cycles m = .error f m') ∧
        w.machine = (m.run (s.timing.due n)).machine ∧
        (w.active = false ↔ (m.run (s.timing.due n)).fault ≠ none)) ∧
    (s.timing.mode = .perFrame →
      w.machine = Action.final (Machine.performAll (s.timing.steps n) m) ∧
        (w.active = false ↔ ∃ f m', Machine.performAll (s.timing.steps n) m = .error f m') ∧
        (s.timing.steps n).filter (· = .cycle) = List.replicate (s.timing.due n) .cycle ∧
        ∀ script i, Machine.Moment.executed ⟨m.afterAll script, .cycle⟩ = some i →
          ((m.afterAll script).after .cycle).delay =
              (Machine.applied i (m.afterAll script).passed).delay ∧
            ((m.afterAll script).after .cycle).sound =
              (Machine.applied i (m.afterAll script).passed).sound) ∧
    w.timeout.fault = none := by
  intro m w
  have hreach : Machine.Reachable m := (Machine.Reachable.initial _ _).afterAll history
  have hfollows : w.Follows s.timing n (Machine.performAll (s.timing.steps n) m) :=
    follows_fired hreach s b n
  have hmachine := hfollows.machine_eq
  have hstopped := hfollows.inactive_iff
  refine ⟨?_, ?_, (follows_timeout hreach hfollows).2⟩
  · intro hmode
    rw [Timing.steps_of_perCycle hmode] at hmachine hstopped
    refine ⟨hmachine, hstopped, ?_⟩
    rw [hmachine, hstopped, Machine.performAll_cycles]
    cases (m.run (s.timing.due n)).fault with
    | none =>
        refine ⟨rfl, ?_⟩
        simp only [reduceCtorEq, exists_false, ne_eq, not_true_eq_false]
    | some f => exact ⟨rfl, ⟨fun _ => Option.some_ne_none f, fun _ => ⟨f, _, rfl⟩⟩⟩
  · intro hmode
    refine ⟨hmachine, hstopped, s.timing.steps_cycles n, ?_⟩
    intro script i hexec
    have hticks : (m.afterAll script).ticksByCycle = false := by
      rw [Machine.ticksByCycle_afterAll]
      change ((Machine.build s fallback).afterAll history).ticksByCycle = false
      rw [Machine.ticksByCycle_afterAll]
      change (s.timing.mode != .perFrame) = false
      rw [hmode]
      rfl
    exact Machine.Moment.timers_next hexec hticks

-- Seven cycles in three frames, of a program that jumps to itself.
example :
    let s : Settings := { Settings.default with timing := ⟨7, 3, .perCycle⟩ }
    let w := opened s 0 [.load [0x12, 0x00]] ⟨[]⟩
    ([1, 2, 3].map fun n => (fired n w).machine.cycles) = [2, 4, 7] ∧
      ((Machine.prepared s 0 [.load [0x12, 0x00]]).run 7).machine.cycles = 7 := by
  decide +kernel

end Window

end Chip8
