import Chip8.Proofs.Window.Trace
import Mathlib.Algebra.Order.Floor.Div

/-!
# Even Shares

How many cycles the frames of a window take, for any stretch of its life.

What is left over of a share is carried to the next frame, whatever happens in
between and however the frames end. It is therefore what is left over by all frames
so far, and the shares of any frames in a row are the difference of two whole parts:
what is due after the last of them, less what was due before the first. That is what
the rates allow for so many frames, rounded down or up, wherever the stretch begins,
and exactly one second's worth of cycles for one second's worth of frames.

The timer need not run for this. A frame can be run by hand, and a window can be
started again after a fault; the cycles that a fault has cost its frame are not made
up for, but no later frame takes more or less on account of it.

## Main definitions

* `Window.Act`: What can be done to a window.
* `Window.begun`: The windows at the beginning of each frame.
* `Window.taken`: The cycles that the frames take.
* `Window.Paced`: What is left over is what all frames so far leave over.

## Theorems

* `Timing.due_add_sub`, `Timing.due_second`: What is due in a stretch of frames.
* `Machine.cycles_run`, `Machine.completed_run`: A loop of cycles counts those that
  complete, which are all of them if none fails.
* `Window.credit_cycles_frame`, `Window.credit_cycles_act`: What a frame leaves over and
  counts, and that nothing else does.
* `Window.Paced.act`, `Window.Paced.taken`: What one act and many acts take.
* `Window.cycles_actAll`: The cycles that the frames run.
* `Window.frames_paced`: All of this.
-/

namespace Chip8

namespace Timing

/-- A division that leaves something over is rounded up to the next number. -/
theorem ceilDiv_of_mod_pos {a b : Nat} (hb : 0 < b) (h : 0 < a % b) : a ⌈/⌉ b = a / b + 1 := by
  have hsplit : a + b - 1 = b * (a / b) + (b + (a % b - 1)) := by
    have hwhole := Nat.div_add_mod a b
    omega
  have hrest : a % b - 1 < b := by
    have hlt := Nat.mod_lt a hb
    omega
  rw [Nat.ceilDiv_eq_add_pred_div, hsplit, Nat.mul_add_div hb, Nat.add_div_left _ hb,
    Nat.div_eq_of_lt hrest]

/-- What is due in a number of frames is what the rates allow for so many, rounded
    down or up. -/
theorem due_add_sub {t : Timing} (hrate : 0 < t.framesPerSecond) (k n : Nat) :
    t.due (k + n) - t.due k = n * t.cyclesPerSecond / t.framesPerSecond ∨
      t.due (k + n) - t.due k = (n * t.cyclesPerSecond) ⌈/⌉ t.framesPerSecond := by
  unfold due
  rw [Nat.add_mul, Nat.add_div hrate, Nat.add_assoc, Nat.add_sub_cancel_left]
  by_cases hcarry : t.framesPerSecond ≤
      k * t.cyclesPerSecond % t.framesPerSecond + n * t.cyclesPerSecond % t.framesPerSecond
  · -- What was left over before makes up one more cycle together with what these frames
    -- leave over, which cannot be nothing.
    have hbefore := Nat.mod_lt (k * t.cyclesPerSecond) hrate
    right
    rw [if_pos hcarry, ceilDiv_of_mod_pos hrate (by omega)]
  · left
    rw [if_neg hcarry, Nat.add_zero]

/-- In a second's worth of frames, a second's worth of cycles is due. -/
theorem due_second {t : Timing} (hrate : 0 < t.framesPerSecond) (k : Nat) :
    t.due (k + t.framesPerSecond) - t.due k = t.cyclesPerSecond := by
  unfold due
  rw [Nat.add_mul, Nat.add_mul_div_left _ _ hrate, Nat.add_sub_cancel_left]

end Timing

namespace Machine

variable {ρ : Type} [Source ρ]

/-- A loop of cycles counts those that complete. -/
theorem cycles_run (m : Machine ρ) (n : Nat) :
    (m.run n).machine.cycles = m.cycles + (m.run n).completed := by
  induction n generalizing m with
  | zero => rfl
  | succ n ih =>
      rw [run_succ]
      cases hcycle : m.cycle with
      | error f m' =>
          rcases (cycle_error_iff m m' f).mp hcycle with ⟨-, -, rfl⟩ | ⟨-, -, rfl⟩
          · rfl
          · exact (kept_abandoned m.instruction m.passed).cycles
      | ok notice m' =>
          rcases (cycle_ok_iff m m' notice).mp hcycle with ⟨-, -, -, hm⟩
          have hcounted : m'.cycles = m.cycles + 1 := by
            rw [hm, complete_eq]
            exact congrArg (· + 1) (cycles_applied m.instruction m.passed)
          simp only []
          rw [ih, hcounted]
          omega

/-- No more cycles of a loop complete than were asked for, and all of them just when none
    fails. -/
theorem completed_run (m : Machine ρ) (n : Nat) :
    (m.run n).completed ≤ n ∧ ((m.run n).completed = n ↔ (m.run n).fault = none) := by
  induction n generalizing m with
  | zero => exact ⟨Nat.le_refl 0, iff_of_true rfl rfl⟩
  | succ n ih =>
      rw [run_succ]
      cases hcycle : m.cycle with
      | error f m' =>
          exact ⟨Nat.zero_le _, iff_of_false (Nat.succ_ne_zero n).symm (Option.some_ne_none f)⟩
      | ok notice m' =>
          rcases ih m' with ⟨hle, hall⟩
          exact ⟨Nat.succ_le_succ hle, Nat.succ_inj.trans hall⟩

end Machine

namespace Window

variable {ρ : Type} [Source ρ]

/-- What can be done to a window: it is started, a frame is run by hand, or something
    happens to it. -/
inductive Act where
  | start
  | frame
  | event (e : Event)
  deriving DecidableEq, Repr

/-- The window after an act. -/
def act (w : Window ρ) : Act → Window ρ
  | .start => w.start
  | .frame => w.frame.window
  | .event e => w.after e

/-- The window after acts, one after the other. -/
def actAll (w : Window ρ) (acts : List Act) : Window ρ :=
  acts.foldl act w

theorem actAll_cons (w : Window ρ) (a : Act) (acts : List Act) :
    w.actAll (a :: acts) = (w.act a).actAll acts := rfl

/-- Whether an act runs a frame: the timer does if it has not been stopped. -/
def runsFrame (w : Window ρ) : Act → Bool
  | .start => false
  | .frame => true
  | .event e => w.active && decide (e = .timeout)

/-- The windows at the beginning of each frame. -/
def begun (w : Window ρ) : List Act → List (Window ρ)
  | [] => []
  | a :: acts => if w.runsFrame a then w :: (w.act a).begun acts else (w.act a).begun acts

/-- The cycles that the frames take. -/
def taken (w : Window ρ) (acts : List Act) : List Nat :=
  (w.begun acts).map fun v => (share v.timing v.credit).1

theorem begun_cons (w : Window ρ) (a : Act) (acts : List Act) :
    w.begun (a :: acts) =
      if w.runsFrame a then w :: (w.act a).begun acts else (w.act a).begun acts := rfl

theorem taken_cons (w : Window ρ) (a : Act) (acts : List Act) :
    w.taken (a :: acts) =
      if w.runsFrame a then (share w.timing w.credit).1 :: (w.act a).taken acts
      else (w.act a).taken acts := by
  unfold taken
  rw [begun_cons]
  cases w.runsFrame a <;> rfl

/-! ### One act -/

/-- Whatever runs a frame does nothing else. -/
theorem act_of_runsFrame {w : Window ρ} {a : Act} (h : w.runsFrame a = true) :
    w.act a = w.frame.window := by
  cases a with
  | start => cases h
  | frame => rfl
  | event e =>
      unfold runsFrame at h
      rw [Bool.and_eq_true, decide_eq_true_iff] at h
      rcases h with ⟨hactive, rfl⟩
      unfold act after handle timeout
      simp only []
      rw [if_pos hactive]

theorem timing_act (w : Window ρ) (a : Act) : (w.act a).timing = w.timing := by
  cases a with
  | start => rfl
  | frame => exact w.window_frame.2
  | event e => exact (w.window_after e).2

/-- However a frame ends, what is left over is carried on, and the cycles that have
    completed are counted. -/
theorem credit_cycles_frame (w : Window ρ) :
    w.frame.window.credit = (share w.timing w.credit).2 ∧
      w.frame.window.machine.cycles = w.machine.cycles + w.loop.completed := by
  have hloop : w.loop.machine.cycles = w.machine.cycles + w.loop.completed :=
    w.machine.cycles_run _
  rw [frame_eq, ← hloop]
  cases w.loop.fault with
  | none =>
      -- The tick at the end of a frame is no cycle.
      refine ⟨rfl, ?_⟩
      change (if _ then w.loop.machine.tick else w.loop.machine).cycles = _
      by_cases hmode : w.looped.timing.mode = .perFrame
      · rw [if_pos hmode]
        rfl
      · rw [if_neg hmode]
  | some f =>
      simp only []
      by_cases hhalts : f.halts = true
      · rw [if_pos hhalts]
        exact ⟨rfl, rfl⟩
      · rw [if_neg hhalts]
        exact ⟨rfl, rfl⟩

/-- What runs no frame leaves the credit and the count of cycles alone. -/
theorem credit_cycles_act {w : Window ρ} {a : Act} (h : w.runsFrame a = false) :
    (w.act a).credit = w.credit ∧ (w.act a).machine.cycles = w.machine.cycles := by
  cases a with
  | start => exact ⟨rfl, rfl⟩
  | frame => cases h
  | event e =>
      -- The timer can only be due while it has been stopped.
      have hidle : w.active = true → e ≠ .timeout := by
        rintro hactive rfl
        unfold runsFrame at h
        rw [hactive] at h
        cases h
      change (w.after e).credit = _ ∧ (w.after e).machine.cycles = _
      have houtcome := w.outcome_after e
      generalize w.after e = w' at houtcome
      cases houtcome with
      | keys keys htimeout hclose => exact ⟨rfl, rfl⟩
      | idle hactive => exact ⟨rfl, rfl⟩
      | completed hactive hloop => exact absurd rfl (hidle hactive)
      | halted hactive hloop hhalts => exact absurd rfl (hidle hactive)
      | brokenOff hactive hloop hhalts => exact absurd rfl (hidle hactive)
      | closed => exact ⟨rfl, rfl⟩

/-! ### Many acts -/

/-- The window has the rates of a timing, and what is left over is what is left over
    after so many frames. -/
structure Paced (t : Timing) (k : Nat) (w : Window ρ) : Prop where
  timing : w.timing = t
  credit : w.credit = t.leftOver k

omit [Source ρ] in
theorem paced_make [Palette] (m : Machine ρ) (s : Settings) (b : Bindings) :
    Paced s.timing 0 (make m s b) where
  timing := rfl
  credit := by
    rw [Timing.leftOver, Nat.zero_mul, Nat.zero_mod]
    rfl

omit [Source ρ] in
/-- The next frame takes what is due after it and was not before. -/
theorem Paced.share {t : Timing} {k : Nat} {w : Window ρ} (h : Paced t k w) :
    share w.timing w.credit = (t.due (k + 1) - t.due k, t.leftOver (k + 1)) := by
  rw [h.timing, h.credit, Timing.share_eq]

/-- A frame brings the window further by one, and nothing else does. -/
theorem Paced.act {t : Timing} {k : Nat} {w : Window ρ} (h : Paced t k w) (a : Act) :
    Paced t (if w.runsFrame a then k + 1 else k) (w.act a) := by
  cases hruns : w.runsFrame a with
  | true =>
      refine ⟨(w.timing_act a).trans h.timing, ?_⟩
      rw [act_of_runsFrame hruns, w.credit_cycles_frame.1, h.share]
      rfl
  | false =>
      exact ⟨(w.timing_act a).trans h.timing, (credit_cycles_act hruns).1.trans h.credit⟩

/-- What frames take in a row is what is due after the last and was not before the
    first. -/
theorem Paced.taken {t : Timing} {k : Nat} {w : Window ρ} (h : Paced t k w) (acts : List Act) :
    Paced t (k + (w.taken acts).length) (w.actAll acts) ∧
      (w.taken acts).sum = t.due (k + (w.taken acts).length) - t.due k := by
  induction acts generalizing w k with
  | nil => exact ⟨h, (Nat.sub_self _).symm⟩
  | cons a acts ih =>
      have hnext := h.act a
      rw [actAll_cons, taken_cons]
      cases hruns : w.runsFrame a with
      | false =>
          rw [hruns] at hnext
          exact ih hnext
      | true =>
          rw [hruns] at hnext
          -- This frame takes what is due by one frame more, and the others go on from there.
          rcases ih hnext with ⟨hpaced, hsum⟩
          have hone := t.due_mono (Nat.le_add_right k 1)
          have hrest := t.due_mono (Nat.le_add_right (k + 1) ((w.act a).taken acts).length)
          simp only [if_true] at hpaced hsum ⊢
          rw [List.length_cons, List.sum_cons, hsum, h.share, Nat.add_comm _ 1, ← Nat.add_assoc]
          exact ⟨hpaced, by omega⟩

/-- The frames run what completes of their loops, and nothing else runs a cycle. -/
theorem cycles_actAll (w : Window ρ) (acts : List Act) :
    (w.actAll acts).machine.cycles =
      w.machine.cycles + ((w.begun acts).map (·.loop.completed)).sum := by
  induction acts generalizing w with
  | nil => rfl
  | cons a acts ih =>
      rw [actAll_cons, ih, begun_cons]
      cases hruns : w.runsFrame a with
      | false =>
          rw [(credit_cycles_act hruns).2]
          rfl
      | true =>
          rw [act_of_runsFrame hruns, w.credit_cycles_frame.2, if_pos rfl, List.map_cons,
            List.sum_cons, Nat.add_assoc]

/-- Whatever is done to a window before and meanwhile, the frames of any stretch of its
    life take what the rates allow for them beyond what they allowed for those before,
    which is what they allow for so many frames, rounded down or up, and exactly the
    cycles of a second if the frames are those of a second. What is left over is less than
    a cycle and accounts for all that has been due. The frames run what they take, unless
    a fault ends one early, and nothing else runs a cycle. -/
theorem frames_paced [Palette] (m : Machine ρ) (s : Settings) (b : Bindings)
    (hrate : 1 ≤ s.timing.framesPerSecond) (before acts : List Act) :
    let f := s.timing.framesPerSecond
    let c := s.timing.cyclesPerSecond
    let w := (make m s b).actAll before
    let k := ((make m s b).taken before).length
    let n := (w.taken acts).length
    (w.taken acts).sum = (k + n) * c / f - k * c / f ∧
      ((w.taken acts).sum = n * c / f ∨ (w.taken acts).sum = (n * c) ⌈/⌉ f) ∧
      (n = f → (w.taken acts).sum = c) ∧
      w.credit < f ∧ f * ((make m s b).taken before).sum + w.credit = k * c ∧
      (w.actAll acts).machine.cycles =
        w.machine.cycles + ((w.begun acts).map (·.loop.completed)).sum ∧
      ∀ v ∈ w.begun acts, v.loop.completed ≤ (share v.timing v.credit).1 ∧
        (v.loop.completed = (share v.timing v.credit).1 ↔ v.loop.fault = none) := by
  intro f c w k n
  rcases (paced_make m s b).taken before with ⟨hbefore, hsum⟩
  rw [Nat.zero_add] at hbefore hsum
  have htaken : (w.taken acts).sum = s.timing.due (k + n) - s.timing.due k :=
    (hbefore.taken acts).2
  have hzero : s.timing.due 0 = 0 := by rw [Timing.due, Nat.zero_mul, Nat.zero_div]
  refine ⟨htaken, ?_, fun hn => ?_, ?_, ?_, w.cycles_actAll acts, fun v _ => ?_⟩
  · rw [htaken]
    exact Timing.due_add_sub hrate k n
  · rw [htaken, hn]
    exact Timing.due_second hrate k
  · rw [hbefore.credit]
    exact Nat.mod_lt _ hrate
  · rw [hbefore.credit, hsum, hzero, Nat.sub_zero]
    exact Nat.div_add_mod _ _
  · exact v.machine.completed_run _

/-- Seven cycles in three frames, after a frame that a fault has cut short. The timer does
    not fire again until it is started; one of the frames is run by hand before that. -/
theorem seven_cycles_in_three_frames :
    let s : Settings := { Settings.default with timing := ⟨7, 3, .perFrame⟩ }
    let m := Machine.booted (⟨[7], 0⟩ : Replay) false [0x00, 0xEE]
    let w := (make m s ⟨[]⟩).actAll [.start, .event .timeout]
    let acts : List Act :=
      [.event .timeout, .frame, .start, .event (.press 0x51 false), .event .timeout, .frame]
    1 ≤ s.timing.framesPerSecond ∧ w.active = false ∧ w.taken acts = [2, 3, 2] ∧
      (w.taken acts).sum = 7 ∧ w.credit < 3 := by
  intro s m w acts
  have hrun : w.active = false ∧ w.taken acts = [2, 3, 2] := by decide +kernel
  have hpaced := frames_paced m s ⟨[]⟩ (by decide) [.start, .event .timeout] acts
  have hcount : (w.taken acts).length = 3 := congrArg List.length hrun.2
  exact ⟨by decide, hrun.1, hrun.2, hpaced.2.2.1 hcount, hpaced.2.2.2.1⟩

end Window

end Chip8
