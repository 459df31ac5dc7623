import Chip8.Proofs.Window.Trace

/-!
# Stopped Windows

A window that has been started runs until a cycle fails or it is closed,
whichever comes first. From then on it stays as it is.

Only the timer makes the machine run and only a frame shows the screen, so
nothing of the machine changes any more once the timer has been stopped, and
neither does the picture or the report. What still comes in are keys and changes
of focus, which press and free logical keys as before. A fault in the middle of a
frame stops the timer by the end of the frame, and the report names it.

## Main definitions

* `Window.ends`, `Window.ended`: Whether an event or one of several ends the
  running of a window.

## Theorems

* `Window.after_of_stopped`, `Window.afterAll_of_stopped`: All that events change
  after a stop is keys.
* `Window.active_after`, `Window.active_afterAll`: The timer runs until something
  ends it.
* `Window.stopped_stays_frozen`: Windows before and after their end.
-/

namespace Chip8

namespace Window

variable {ρ : Type} [Source ρ]

/-- Whether an event ends the running of a window: it is closed, or the timer fires
    and a cycle of the frame fails. -/
def ends (w : Window ρ) : Event → Bool
  | .timeout => w.active && w.loop.fault.isSome
  | .close => true
  | _ => false

/-- Whether one of the events ends the running of a window. -/
def ended (w : Window ρ) : List Event → Bool
  | [] => false
  | e :: events => w.ends e || (w.after e).ended events

/-! ### After the end -/

/-- Nothing but keys changes in a window whose timer has been stopped. -/
theorem after_of_stopped {w : Window ρ} (h : w.active = false) (e : Event) :
    w.after e =
      { w with machine := { w.machine with keypad := (w.after e).machine.keypad } } := by
  have hrunning : w.active ≠ true := Bool.eq_false_iff.mp h
  have houtcome := w.outcome_after e
  generalize w.after e = w' at houtcome
  cases houtcome with
  | keys keys htimeout hclose => rfl
  | idle hactive => rfl
  | completed hactive hloop => exact absurd hactive hrunning
  | halted hactive hloop hhalts => exact absurd hactive hrunning
  | brokenOff hactive hloop hhalts => exact absurd hactive hrunning
  | closed =>
      -- To stop the timer once more makes no difference.
      have hstop : w.stop = w := by
        unfold stop
        rw [← h]
      rw [hstop]

/-- A window that has stopped changes by its keys only, whatever happens to it. -/
theorem afterAll_of_stopped {w : Window ρ} (h : w.active = false) (events : List Event) :
    w.afterAll events =
      { w with machine := { w.machine with keypad := (w.afterAll events).machine.keypad } } := by
  induction events generalizing w with
  | nil => rfl
  | cons e events ih =>
      have hfirst := after_of_stopped h e
      have hstopped : (w.after e).active = false := by
        rw [hfirst]
        exact h
      rw [afterAll_cons, ih hstopped]
      generalize ((w.after e).afterAll events).machine.keypad = keys
      rw [hfirst]

/-! ### Before the end -/

/-- The timer runs on unless the event ends it. The machine has to be one that is
    halted by whatever its cycles fail with. -/
theorem active_after {w : Window ρ} (hdelay : Bytes.IsByte w.machine.delay)
    (h : w.active = true) (e : Event) : (w.after e).active = !w.ends e := by
  have houtcome := w.outcome_after e
  generalize w.after e = w' at houtcome
  cases houtcome with
  | keys keys htimeout hclose =>
      cases e with
      | timeout => exact absurd rfl htimeout
      | close => exact absurd rfl hclose
      | _ => exact h
  | idle hactive =>
      rw [h] at hactive
      cases hactive
  | completed hactive hloop =>
      unfold ends
      simp only [hloop, Option.isSome_none, Bool.and_false, Bool.not_false]
      exact h
  | halted hactive hloop hhalts =>
      unfold ends
      simp only [hactive, hloop, Option.isSome_some, Bool.and_self, Bool.not_true]
      rfl
  | brokenOff hactive hloop hhalts =>
      rw [Machine.run_halts hdelay hloop] at hhalts
      cases hhalts
  | closed => rfl

theorem active_afterAll {w : Window ρ} (hdelay : Bytes.IsByte w.machine.delay)
    (h : w.active = true) (events : List Event) :
    (w.afterAll events).active = !w.ended events := by
  induction events generalizing w with
  | nil => exact h
  | cons e events ih =>
      have hfirst := active_after hdelay h e
      rw [afterAll_cons, ended]
      cases hends : w.ends e with
      | true =>
          -- What is left of the events comes too late.
          rw [hends] at hfirst
          rw [afterAll_of_stopped hfirst]
          exact hfirst
      | false =>
          rw [hends] at hfirst
          exact ih (isByte_delay_after hdelay e) hfirst

/-- A window that is started runs until something ends it: it is closed, or a cycle
    of a frame fails. From then on no event changes anything of the machine but its
    keys, nor the picture nor the report, and the timer stays stopped. Closing
    changes nothing else either. Where a cycle has failed the report names its
    fault. A delay timer that holds a byte, as in every machine that has got where
    it is by running, is all that this asks of the machine. -/
theorem stopped_stays_frozen (w : Window ρ) (hdelay : Bytes.IsByte w.machine.delay)
    (before : List Event) :
    let v := w.start.afterAll before
    v.active = !w.start.ended before ∧
      (w.start.ended before = true → ∀ later,
        let v' := v.afterAll later
        v'.active = false ∧
          v'.machine = { v.machine with keypad := v'.machine.keypad } ∧
          v'.view = v.view ∧ v'.status = v.status) ∧
      (w.start.ended before = false →
        v.after .close = { v with active := false } ∧
          ∀ f, v.loop.fault = some f →
            (∃ n, (v.machine.run n).fault = none ∧
              (v.machine.run n).machine.cycle = .error f v.loop.machine) ∧
            ∀ later, ((v.after .timeout).afterAll later).status.map Status.text =
              some ("Halted: " ++ f.message)) := by
  intro v
  have hactive : v.active = !w.start.ended before :=
    active_afterAll (w := w.start) hdelay rfl before
  have hbyte : Bytes.IsByte v.machine.delay := isByte_delay_afterAll (w := w.start) hdelay before
  refine ⟨hactive, fun hended later => ?_,
    fun hrunning => ⟨rfl, fun f hf => ⟨⟨_, (Machine.run_of_fault hf).2⟩, fun later => ?_⟩⟩⟩
  · -- The timer has been stopped by then, and later events find it so.
    rw [hended] at hactive
    have hfrozen := afterAll_of_stopped hactive later
    refine ⟨?_, congrArg machine hfrozen, ?_, ?_⟩
    · rw [hfrozen]
      exact hactive
    · rw [hfrozen]
    · rw [hfrozen]
  · -- The frame that fails is the last one to report anything.
    rw [hrunning] at hactive
    rw [after_of_fault hbyte hactive hf, afterAll_of_stopped (w := v.looped.haltFrame f) rfl]
    rfl

/-- A program that sets a register and then returns without a call, in its first
    frame, and what comes in after that. -/
theorem return_freezes :
    let w := make (Machine.booted (⟨[7], 0⟩ : Replay) true [0x60, 0x05, 0x00, 0xEE])
      Settings.default ⟨[(1, 0x31)]⟩
    let v := w.start.afterAll [.timeout]
    let v' := v.afterAll [.press 0x31 false, .timeout, .activation false, .close, .timeout]
    Bytes.IsByte w.machine.delay ∧ w.start.ended [.timeout] = true ∧ v'.active = false ∧
      v'.machine = { v.machine with keypad := v'.machine.keypad } ∧ v'.view = v.view ∧
      w.start.loop.fault = some .stackUnderflow ∧
      v'.status.map Status.text = some ("Halted: " ++ Fault.stackUnderflow.message) := by
  have hrun :
      let w := make (Machine.booted (⟨[7], 0⟩ : Replay) true [0x60, 0x05, 0x00, 0xEE])
        Settings.default ⟨[(1, 0x31)]⟩
      w.machine.delay = 0 ∧ w.start.ended [.timeout] = true ∧
        w.start.loop.fault = some .stackUnderflow := by
    decide +kernel
  generalize make (Machine.booted (⟨[7], 0⟩ : Replay) true [0x60, 0x05, 0x00, 0xEE])
    Settings.default ⟨[(1, 0x31)]⟩ = w at hrun ⊢
  rcases hrun with ⟨hzero, hended, hfault⟩
  intro v v'
  have hdelay : Bytes.IsByte w.machine.delay := by
    rw [hzero]
    decide
  have hfrozen := (stopped_stays_frozen w hdelay [.timeout]).2.1 hended
    [.press 0x31 false, .timeout, .activation false, .close, .timeout]
  have hnamed := ((stopped_stays_frozen w hdelay []).2.2 rfl).2 _ hfault
  exact ⟨hdelay, hended, hfrozen.1, hfrozen.2.1, hfrozen.2.2.1, hfault, hnamed.2 _⟩

end Window

end Chip8
