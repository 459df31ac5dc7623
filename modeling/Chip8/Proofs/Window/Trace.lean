import Chip8.Proofs.Window.Pace

/-!
# Traces of Windows

What a window does to its machine, event by event.

Whatever happens to a window comes down to steps of its machine: a frame is a
number of cycles and perhaps a tick, a key with a meaning is set, and all keys
are released when the window ceases to be active. The first refusal ends what
an event does, so that not all of the steps need be done. The trace of a list
of events puts together those that are, and leads the machine to where the
window leaves it; laws about scripts are laws about windows this way.

## Main definitions

* `Machine.done`: The steps of a script up to its first refusal.
* `Window.after`, `Window.afterAll`: The window after events.
* `Window.stepsOf`: What an event asks of the machine.
* `Window.trace`: What is done to the machine by events.
* `Window.loop`, `Window.looped`: The loop of the next frame, and the window after
  it.
* `Window.Outcome`: What can become of a window when something happens to it.

## Theorems

* `Machine.afterAll_done`: Where the steps that are done lead.
* `Window.frame_eq`: A frame by the way in which its loop ends.
* `Window.window_keyReaction`, `Window.window_frame`, `Window.window_after`: What
  keys, frames and events do.
* `Window.outcome_after`, `Window.after_of_fault`: What becomes of a window after an
  event, and after a frame that fails.
* `Window.afterAll_invariant`: What every event keeps, all of them keep.
* `Window.machine_afterAll`: The machine of a window is where its trace leads.
* `Window.isByte_delay_after`, `Window.isByte_delay_afterAll`: Events keep a byte in
  the delay timer.
* `Window.timing_afterAll`: Rates and mode stay as they are.
-/

namespace Chip8

namespace Machine

variable {ρ : Type} [Source ρ]

/-- The steps of a script that are done if the first refusal ends it, the step
    that is refused included. -/
def done (m : Machine ρ) : List Step → List Step
  | [] => []
  | s :: script =>
    s ::
      match perform s m with
      | .ok _ m' => m'.done script
      | .error _ _ => []

theorem done_cons (m : Machine ρ) (s : Step) (script : List Step) :
    m.done (s :: script) =
      s ::
        match perform s m with
        | .ok _ m' => m'.done script
        | .error _ _ => [] := rfl

theorem done_prefix (m : Machine ρ) (script : List Step) : m.done script <+: script := by
  induction script generalizing m with
  | nil => exact List.prefix_rfl
  | cons s script ih =>
      rw [done_cons]
      cases perform s m with
      | ok notice m' => exact (List.prefix_cons_inj s).mpr (ih m')
      | error f m' => exact (List.prefix_cons_inj s).mpr List.nil_prefix

theorem afterAll_done (m : Machine ρ) (script : List Step) :
    m.afterAll (m.done script) = Action.final (performAll script m) := by
  induction script generalizing m with
  | nil => rfl
  | cons s script ih =>
      rw [done_cons, afterAll_cons, performAll_cons, Machine.after]
      cases perform s m with
      | ok notice m' => exact ih m'
      | error f m' => rfl

/-- The second part of a script is begun if nothing of the first is refused. -/
theorem done_append (m : Machine ρ) (first rest : List Step) :
    m.done (first ++ rest) =
      match performAll first m with
      | .ok _ m' => first ++ m'.done rest
      | .error _ _ => m.done first := by
  induction first generalizing m with
  | nil => rfl
  | cons s first ih =>
      rw [List.cons_append, performAll_cons, done_cons, done_cons]
      cases perform s m with
      | ok notice m' =>
          simp only [ih m']
          cases performAll first m' <;> rfl
      | error f m' => rfl

end Machine

namespace Window

variable {ρ : Type}

/-! ### Events -/

/-- What a key of the host asks of the machine. -/
def keySteps (w : Window ρ) (code : Int) (pressed repeated : Bool) : List Machine.Step :=
  if repeated then [] else (w.bindings.translate code).toList.map (.setKey · pressed)

/-- What an event asks of the machine. -/
def stepsOf (w : Window ρ) : Event → List Machine.Step
  | .timeout => if w.active then w.timing.wholeFrame (share w.timing w.credit).1 else []
  | .press code repeated => w.keySteps code true repeated
  | .release code repeated => w.keySteps code false repeated
  | .activation isActive => if isActive then [] else [.releaseKeys]
  | .otherChange _ | .close => []

variable [Source ρ]

/-- The window after an event. -/
def after (w : Window ρ) (e : Event) : Window ρ :=
  (w.handle e).window

/-- The window after events, one after the other. -/
def afterAll (w : Window ρ) (events : List Event) : Window ρ :=
  events.foldl after w

theorem afterAll_cons (w : Window ρ) (e : Event) (events : List Event) :
    w.afterAll (e :: events) = (w.after e).afterAll events := rfl

/-- What every event keeps is kept by all of them. -/
theorem afterAll_invariant {P : Window ρ → Prop} (hafter : ∀ w e, P w → P (w.after e))
    {w : Window ρ} (h : P w) (events : List Event) : P (w.afterAll events) := by
  induction events generalizing w with
  | nil => exact h
  | cons e events ih =>
      rw [afterAll_cons]
      exact ih (hafter w e h)

/-- The loop of cycles of the next frame. -/
def loop (w : Window ρ) : Machine.Run ρ :=
  w.machine.run (share w.timing w.credit).1

/-- The window after the loop of its next frame, which has yet to be shown. -/
def looped (w : Window ρ) : Window ρ :=
  { w with machine := w.loop.machine, credit := (share w.timing w.credit).2 }

/-- A frame ends as its loop does: it completes, or it halts the machine, or it
    breaks off. -/
theorem frame_eq (w : Window ρ) :
    w.frame =
      match w.loop.fault with
      | none => ⟨w.looped.completeFrame, w.loop.notices, none, false⟩
      | some f =>
        if f.halts then
          ⟨w.looped.haltFrame f, w.loop.notices ++ [.halted w.loop.machine.pc f], none, false⟩
        else ⟨w.looped, w.loop.notices, some f, false⟩ := rfl

/-- What is done to the machine by events. -/
def trace (w : Window ρ) : List Event → List Machine.Step
  | [] => []
  | e :: events => w.machine.done (w.stepsOf e) ++ (w.after e).trace events

theorem window_keyReaction (w : Window ρ) (code : Int) (pressed repeated : Bool) :
    (w.keyReaction code pressed repeated).window =
      { w with
        machine :=
          Action.final (Machine.performAll (w.keySteps code pressed repeated) w.machine) } := by
  unfold keyReaction keyEvent keySteps
  cases repeated with
  | true => rfl
  | false =>
      -- What the code stands for decides whether the keypad is touched at all.
      simp only [Bool.false_eq_true, if_false]
      rw [Action.run_bind]
      unfold key
      rw [Action.run_bind, Action.run_get]
      simp only []
      cases w.bindings.translate code with
      | none => rfl
      | some k =>
          simp only [Option.toList_some, List.map_cons, List.map_nil]
          rw [Action.run_bind, Action.run_on, Machine.performAll_cons, Machine.perform_setKey]
          unfold Machine.onKeypad
          rw [Action.run_on]
          cases Keypad.set k pressed w.machine.keypad <;> rfl

/-- A frame brings the machine to where its cycles and its tick do, and its rates
    and mode are still those of the window. -/
theorem window_frame (w : Window ρ) :
    w.frame.window.machine =
        Action.final
          (Machine.performAll (w.timing.wholeFrame (share w.timing w.credit).1) w.machine) ∧
      w.frame.window.timing = w.timing := by
  rw [Machine.performAll_wholeFrame]
  unfold frame
  simp only []
  cases (w.machine.run (share w.timing w.credit).1).fault with
  | none => exact ⟨rfl, rfl⟩
  | some f =>
      simp only []
      -- Whether the fault halts the machine or not, nothing more is done to it.
      by_cases h : f.halts = true
      · rw [if_pos h]
        exact ⟨rfl, rfl⟩
      · rw [if_neg h]
        exact ⟨rfl, rfl⟩

/-- An event does its steps to the machine, and keeps the rates. -/
theorem window_after (w : Window ρ) (e : Event) :
    (w.after e).machine = Action.final (Machine.performAll (w.stepsOf e) w.machine) ∧
      (w.after e).timing = w.timing := by
  unfold after
  cases e with
  | timeout =>
      unfold handle timeout stepsOf
      simp only []
      by_cases hactive : w.active = true
      · rw [if_pos hactive, if_pos hactive]
        exact w.window_frame
      · rw [if_neg hactive, if_neg hactive]
        exact ⟨rfl, rfl⟩
  | press code repeated =>
      unfold handle
      rw [window_keyReaction]
      exact ⟨rfl, rfl⟩
  | release code repeated =>
      unfold handle
      rw [window_keyReaction]
      exact ⟨rfl, rfl⟩
  | activation isActive => cases isActive <;> exact ⟨rfl, rfl⟩
  | otherChange isActive => exact ⟨rfl, rfl⟩
  | close => exact ⟨rfl, rfl⟩

/-- A key of the host changes nothing but the logical keys. -/
theorem keys_keyReaction (w : Window ρ) (code : Int) (pressed repeated : Bool) :
    ∃ keys, (w.keyReaction code pressed repeated).window =
      { w with machine := { w.machine with keypad := keys } } := by
  rw [window_keyReaction]
  unfold keySteps
  cases repeated with
  | true => exact ⟨w.machine.keypad, rfl⟩
  | false =>
      simp only [Bool.false_eq_true, if_false]
      cases w.bindings.translate code with
      | none => exact ⟨w.machine.keypad, rfl⟩
      | some k =>
          refine ⟨Action.final (Keypad.set k pressed w.machine.keypad), ?_⟩
          rw [Option.toList_some, List.map_cons, List.map_nil, Machine.performAll_cons,
            Machine.perform_setKey]
          cases Keypad.set k pressed w.machine.keypad <;> rfl

/-- What can become of a window when something happens to it. -/
inductive Outcome (w : Window ρ) : Event → Window ρ → Prop
  /-- Nothing but keys can have changed. -/
  | keys {e : Event} (keys : Keypad) (htimeout : e ≠ .timeout) (hclose : e ≠ .close) :
    Outcome w e { w with machine := { w.machine with keypad := keys } }
  /-- The timer has been stopped and does not fire. -/
  | idle (hactive : w.active = false) : Outcome w .timeout w
  /-- A frame is completed. -/
  | completed (hactive : w.active = true) (hloop : w.loop.fault = none) :
    Outcome w .timeout w.looped.completeFrame
  /-- A frame ends in a fault that halts the machine. -/
  | halted {f : Fault} (hactive : w.active = true) (hloop : w.loop.fault = some f)
    (hhalts : f.halts = true) : Outcome w .timeout (w.looped.haltFrame f)
  /-- A frame ends in a misuse. -/
  | brokenOff {f : Fault} (hactive : w.active = true) (hloop : w.loop.fault = some f)
    (hhalts : f.halts = false) : Outcome w .timeout w.looped
  /-- The timer is stopped. -/
  | closed : Outcome w .close w.stop

/-- One of the outcomes comes of every event. -/
theorem outcome_after (w : Window ρ) (e : Event) : Outcome w e (w.after e) := by
  unfold after
  cases e with
  | timeout =>
      unfold handle timeout
      cases hactive : w.active with
      | false => exact .idle hactive
      | true =>
          simp only [if_true]
          rw [frame_eq]
          cases hloop : w.loop.fault with
          | none => exact .completed hactive hloop
          | some f =>
              simp only []
              by_cases hhalts : f.halts = true
              · rw [if_pos hhalts]
                exact .halted hactive hloop hhalts
              · rw [if_neg hhalts]
                exact .brokenOff hactive hloop (Bool.eq_false_iff.mpr hhalts)
  | press code repeated =>
      rcases w.keys_keyReaction code true repeated with ⟨keys, hkeys⟩
      unfold handle
      rw [hkeys]
      exact .keys keys Event.noConfusion Event.noConfusion
  | release code repeated =>
      rcases w.keys_keyReaction code false repeated with ⟨keys, hkeys⟩
      unfold handle
      rw [hkeys]
      exact .keys keys Event.noConfusion Event.noConfusion
  | activation isActive =>
      cases isActive with
      | true => exact .keys w.machine.keypad Event.noConfusion Event.noConfusion
      | false => exact .keys .released Event.noConfusion Event.noConfusion
  | otherChange isActive => exact .keys w.machine.keypad Event.noConfusion Event.noConfusion
  | close => exact .closed

/-- A frame that fails halts the machine, if its delay timer holds a byte. -/
theorem after_of_fault {w : Window ρ} (hdelay : Bytes.IsByte w.machine.delay)
    (hactive : w.active = true) {f : Fault} (hf : w.loop.fault = some f) :
    w.after .timeout = w.looped.haltFrame f := by
  have houtcome := w.outcome_after .timeout
  generalize w.after .timeout = w' at houtcome
  cases houtcome with
  | keys keys htimeout hclose => exact absurd rfl htimeout
  | idle hidle =>
      rw [hactive] at hidle
      cases hidle
  | completed _ hloop =>
      rw [hf] at hloop
      cases hloop
  | halted _ hloop hhalts =>
      rw [hf] at hloop
      cases hloop
      rfl
  | brokenOff _ hloop hhalts =>
      rw [Machine.run_halts hdelay hloop] at hhalts
      cases hhalts

theorem bindings_after (w : Window ρ) (e : Event) : (w.after e).bindings = w.bindings := by
  have houtcome := w.outcome_after e
  generalize w.after e = w' at houtcome
  cases houtcome <;> rfl

/-- Events come to a script of steps. This carries what is known of scripts over to windows. -/
theorem machine_afterAll (w : Window ρ) (events : List Event) :
    (w.afterAll events).machine = w.machine.afterAll (w.trace events) := by
  -- Each event does its steps up to the first refusal, which is what its part of
  -- the trace holds.
  induction events generalizing w with
  | nil => rfl
  | cons e events ih =>
      rw [afterAll_cons, ih, (w.window_after e).1, trace, Machine.afterAll_append,
        Machine.afterAll_done]

theorem isByte_delay_after {w : Window ρ} (h : Bytes.IsByte w.machine.delay) (e : Event) :
    Bytes.IsByte (w.after e).machine.delay := by
  rw [(w.window_after e).1, ← Machine.afterAll_done]
  exact Machine.isByte_delay_afterAll h _

theorem isByte_delay_afterAll {w : Window ρ} (h : Bytes.IsByte w.machine.delay)
    (events : List Event) : Bytes.IsByte (w.afterAll events).machine.delay :=
  afterAll_invariant (P := fun w => Bytes.IsByte w.machine.delay)
    (fun _ e hw => isByte_delay_after hw e) h events

theorem timing_afterAll (w : Window ρ) (events : List Event) :
    (w.afterAll events).timing = w.timing :=
  afterAll_invariant (P := fun v => v.timing = w.timing)
    (fun v e hv => (v.window_after e).2.trans hv) rfl events

end Window

end Chip8
