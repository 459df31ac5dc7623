import Chip8.Proofs.View
import Chip8.Proofs.Window.Trace

/-!
# Pictures of Windows

The picture of a window is that of the screen of its machine, at every moment.

It is drawn anew when the window is made and at the end of every frame, be it
completed or broken off by a fault that halts the machine. In between, nothing
that happens to a window touches the screen, and colours stay what they were made
with. Only a misuse would end a frame without a new picture, and none occurs while
the delay timer holds a byte.

What a picture shows after a fault is what the cycles before it have drawn, since
the cycle that fails draws nothing.

Which colours the host has for names makes no difference.

## Main definitions

* `Window.Painted`: The picture of a window is that of the screen.
* `Window.Shows`: The same pixel by pixel, and what can be told from it.

## Theorems

* `Window.painted_after`, `Window.painted_afterAll`: Events keep the picture up to
  date.
* `Window.screen_of_fault`: What is on the screen when a frame fails.
* `Window.picture_shows_screen`: The picture of a window whatever happens to it.
-/

namespace Chip8

namespace Window

variable {ρ : Type}

/-- The window has these colours, and its picture is that of the screen in them. -/
structure Painted (w : Window ρ) (on off : Colour) : Prop where
  on_eq : w.view.on = on
  off_eq : w.view.off = off
  picture_eq : w.view.picture = some (.ofScreen w.machine.screen on off)

/-- There is a picture, in which every pixel has one colour if it is lit and the
    other if it is dark; if these differ, the screen can be told from it. -/
def Shows (w : Window ρ) (on off : Colour) : Prop :=
  ∃ p, w.view.picture = some p ∧
    (∀ (row : Fin 32) (col : Fin 64),
      p.colour (row, col) = if w.machine.screen.lit (row, col) then on else off) ∧
    (on ≠ off → p.screen on = w.machine.screen)

theorem Painted.shows {w : Window ρ} {on off : Colour} (h : w.Painted on off) :
    w.Shows on off :=
  ⟨_, h.picture_eq, fun row col => Picture.colour_ofScreen _ on off (row, col),
    fun hne => Picture.screen_ofScreen _ hne⟩

/-! ### What paints -/

/-- To show the screen paints the window, if the colours are right. -/
theorem painted_refresh {w : Window ρ} {on off : Colour} (hon : w.view.on = on)
    (hoff : w.view.off = off) : w.refresh.Painted on off := by
  refine ⟨hon, hoff, ?_⟩
  rw [← hon, ← hoff]
  rfl

/-- A window is painted when it is made, in the colours of the names in the settings. -/
theorem painted_make [Palette] (m : Machine ρ) (s : Settings) (b : Bindings) :
    (make m s b).Painted (Palette.colour s.display.foreground)
      (Palette.colour s.display.background) :=
  painted_refresh rfl rfl

theorem painted_start {w : Window ρ} {on off : Colour} (h : w.Painted on off) :
    w.start.Painted on off :=
  ⟨h.on_eq, h.off_eq, h.picture_eq⟩

variable [Source ρ]

/-- A frame paints at its end and other events leave picture and screen alone. -/
theorem painted_after {w : Window ρ} {on off : Colour} (hdelay : Bytes.IsByte w.machine.delay)
    (h : w.Painted on off) (e : Event) : (w.after e).Painted on off := by
  have houtcome := w.outcome_after e
  generalize w.after e = w' at houtcome
  cases houtcome with
  | keys keys htimeout hclose => exact ⟨h.on_eq, h.off_eq, h.picture_eq⟩
  | idle hactive => exact h
  | completed hactive hloop => exact painted_refresh h.on_eq h.off_eq
  | halted hactive hloop hhalts => exact painted_refresh h.on_eq h.off_eq
  | brokenOff hactive hloop hhalts =>
      -- The screen would be ahead of the picture here.
      rw [Machine.run_halts hdelay hloop] at hhalts
      cases hhalts
  | closed => exact ⟨h.on_eq, h.off_eq, h.picture_eq⟩

theorem painted_afterAll {w : Window ρ} {on off : Colour} (hdelay : Bytes.IsByte w.machine.delay)
    (h : w.Painted on off) (events : List Event) : (w.afterAll events).Painted on off :=
  (afterAll_invariant (P := fun w => Bytes.IsByte w.machine.delay ∧ w.Painted on off)
    (fun _ e hw => ⟨isByte_delay_after hw.1 e, painted_after hw.1 hw.2 e⟩) ⟨hdelay, h⟩ events).2

/-- When a cycle of a frame fails, the screen is as the cycles before it have left
    it. -/
theorem screen_of_fault {w : Window ρ} (hdelay : Bytes.IsByte w.machine.delay)
    (hactive : w.active = true) {f : Fault} (hf : w.loop.fault = some f) :
    ∃ n m', (w.machine.run n).fault = none ∧ (w.machine.run n).machine.cycle = .error f m' ∧
      (w.after .timeout).machine.screen = (w.machine.run n).machine.screen := by
  rcases Machine.run_of_fault hf with ⟨-, hnone, hfails⟩
  refine ⟨w.loop.completed, w.loop.machine, hnone, hfails, ?_⟩
  rw [after_of_fault hdelay hactive hf]
  exact Machine.screen_of_cycle_error hfails

/-- A window shows the screen of its machine from the moment it is made, before it is
    started and after, whatever happens to it. When a cycle of a frame fails, the
    screen that is shown is that of the cycles before it. A delay timer that holds a
    byte, as in every machine that has got where it is by running, is all that this
    asks of the machine. -/
theorem picture_shows_screen [Palette] (m : Machine ρ) (hdelay : Bytes.IsByte m.delay)
    (s : Settings) (b : Bindings) (before events : List Event) :
    let w := (make m s b).afterAll before
    let v := w.start.afterAll events
    let on := Palette.colour s.display.foreground
    let off := Palette.colour s.display.background
    w.Shows on off ∧ v.Shows on off ∧
      (v.active = true → ∀ f, v.loop.fault = some f →
        (v.after .timeout).Shows on off ∧
          ∃ n m', (v.machine.run n).fault = none ∧
            (v.machine.run n).machine.cycle = .error f m' ∧
            (v.after .timeout).machine.screen = (v.machine.run n).machine.screen) := by
  intro w v on off
  -- A window is painted when it is made, and stays so through both lists of events.
  have hw : w.Painted on off :=
    painted_afterAll (w := make m s b) hdelay (painted_make m s b) before
  have hbyte : Bytes.IsByte w.machine.delay :=
    isByte_delay_afterAll (w := make m s b) hdelay before
  have hv : v.Painted on off := painted_afterAll (w := w.start) hbyte (painted_start hw) events
  have hbyte' : Bytes.IsByte v.machine.delay := isByte_delay_afterAll (w := w.start) hbyte events
  refine ⟨hw.shows, hv.shows, fun hactive f hf => ⟨?_, screen_of_fault hbyte' hactive hf⟩⟩
  exact (painted_after hbyte' hv .timeout).shows

/-- A program that draws one row of a sprite and then returns without a call, in
    white on black: what it has drawn is shown. -/
theorem halted_sprite_shows :
    let w := make (Machine.booted (⟨[7], 0⟩ : Replay) true [0xA2, 0x00, 0xD0, 0x01, 0x00, 0xEE])
      Settings.default ⟨[]⟩
    let v := w.start.afterAll [.timeout]
    Bytes.IsByte w.machine.delay ∧ w.start.active = true ∧
      w.start.loop.fault = some .stackUnderflow ∧ v.machine.screen.lit (0, 0) = true ∧
      v.machine.screen.lit (0, 1) = false ∧ v.Shows 0xFFFFFFFF 0xFF000000 := by
  have hrun :
      let w := make (Machine.booted (⟨[7], 0⟩ : Replay) true [0xA2, 0x00, 0xD0, 0x01, 0x00, 0xEE])
        Settings.default ⟨[]⟩
      w.machine.delay = 0 ∧ w.start.loop.fault = some .stackUnderflow ∧
        (w.start.afterAll [.timeout]).machine.screen.lit (0, 0) = true ∧
        (w.start.afterAll [.timeout]).machine.screen.lit (0, 1) = false := by
    decide +kernel
  have hcolours : Palette.colour Settings.default.display.foreground = 0xFFFFFFFF ∧
      Palette.colour Settings.default.display.background = 0xFF000000 := by
    decide
  generalize Machine.booted (⟨[7], 0⟩ : Replay) true [0xA2, 0x00, 0xD0, 0x01, 0x00, 0xEE] = m
    at hrun ⊢
  generalize Settings.default = s at hrun hcolours ⊢
  intro w v
  rcases hrun with ⟨hzero, hfault, hlit, hdark⟩
  have hdelay : Bytes.IsByte m.delay := by
    rw [show m.delay = 0 from hzero]
    decide
  have hall := picture_shows_screen m hdelay s ⟨[]⟩ [] []
  rw [hcolours.1, hcolours.2] at hall
  exact ⟨hdelay, rfl, hfault, hlit, hdark, (hall.2.2 rfl _ hfault).1⟩

end Window

end Chip8
