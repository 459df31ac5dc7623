import Chip8.HostKey
import Chip8.Machine.Cycle
import Chip8.Settings
import Chip8.View

/-!
# The Window

The window drives the machine. A timer fires once a frame; each frame runs
its share of cycles, shows the screen and reports how things stand. The share
is the whole part of what the rates allow, and what is left over counts for
the next frame, so that no cycle is lost over many frames.

A fault of the machine halts it: the timer stops, and the last picture and
the report stay. A misuse, which no program can bring about, ends the frame
on the spot.

Keys of the host press and release the logical keys that they stand for. When
the window is no longer active, all keys are released.

## Main definitions

* `Status`: What the window reports.
* `Window`: The window and the machine that it drives.
* `Window.share`: The cycles of a frame, and what is left over.
* `Window.frame`: One frame.
* `Window.Event`, `Window.handle`: What can happen to a window.
-/

namespace Chip8

/-- What the window reports. -/
inductive Status where
  | running
  | sounding
  | halted (f : Fault)
  deriving DecidableEq, Repr

/-- The wording of a report. -/
def Status.text : Status → String
  | running => "Running"
  | sounding => "Running (sound)"
  | halted f => s!"Halted: {f.message}"

/-- The window and the machine that it drives. -/
structure Window (ρ : Type) where
  machine : Machine ρ
  timing : Timing
  bindings : Bindings
  /-- What is left over of the shares so far, in parts of a cycle. -/
  credit : Nat
  view : View
  /-- Whether the timer runs. -/
  active : Bool
  /-- Nothing until the first report. -/
  status : Option Status

namespace Window

variable {ρ : Type}

/-- The title of the window. -/
def title : String := "CHIP-8"

/-- The milliseconds between two frames: what the rate asks for, rounded down,
    but at least one. -/
def interval (w : Window ρ) : Nat :=
  max 1 (1000 / w.timing.framesPerSecond)

/-- Show the screen. -/
def refresh (w : Window ρ) : Window ρ :=
  { w with view := w.view.display w.machine.screen }

/-- A window that shows the machine as it is and waits to be started. -/
def make [Palette] (m : Machine ρ) (s : Settings) (b : Bindings) : Window ρ :=
  refresh {
    machine := m
    timing := s.timing
    bindings := b
    credit := 0
    view := .make s.display.scale s.display.foreground s.display.background
    active := false
    status := none }

/-- Start the timer. -/
def start (w : Window ρ) : Window ρ :=
  { w with active := true, status := some .running }

/-- Stop the timer. -/
def stop (w : Window ρ) : Window ρ :=
  { w with active := false }

/-- The cycles of the next frame, and what is left over. -/
def share (t : Timing) (credit : Nat) : Nat × Nat :=
  let due := credit + t.cyclesPerSecond
  (due / t.framesPerSecond, due % t.framesPerSecond)

/-! ### Frames -/

/-- What came of something that happened: the window after it and what was
    reported on the way. -/
structure Reaction (ρ : Type) where
  window : Window ρ
  notices : List Notice
  /-- The fault that ended it early. -/
  fault : Option Fault
  /-- Whether it is left to whoever handles what the window does not. -/
  passedOn : Bool

/-- The end of a frame whose cycles have all completed. -/
def completeFrame (w : Window ρ) : Window ρ :=
  let m := if w.timing.mode = .perFrame then w.machine.tick else w.machine
  refresh { w with
    machine := m
    status := some (if m.sounding then .sounding else .running) }

/-- The end of a frame in which a fault halted the machine. -/
def haltFrame (f : Fault) (w : Window ρ) : Window ρ :=
  refresh { w.stop with status := some (.halted f) }

/-- One frame. -/
def frame [Source ρ] (w : Window ρ) : Reaction ρ :=
  let (cycles, credit) := share w.timing w.credit
  let r := w.machine.run cycles
  let w := { w with machine := r.machine, credit := credit }
  match r.fault with
  | none => ⟨w.completeFrame, r.notices, none, false⟩
  | some f =>
    if f.halts then
      ⟨w.haltFrame f, r.notices ++ [.halted r.machine.pc f], none, false⟩
    else ⟨w, r.notices, some f, false⟩

/-- The timer fires, unless it has been stopped. -/
def timeout [Source ρ] (w : Window ρ) : Reaction ρ :=
  if w.active then w.frame else ⟨w, [], none, false⟩

/-! ### Keys -/

/-- Press or release the logical key of a code. Whether there is one. -/
def key (code : Int) (pressed : Bool) : Action (Window ρ) Bool := do
  match (← get).bindings.translate code with
  | none => return false
  | some k =>
    Action.on machine (fun w m => { w with machine := m }) (Machine.onKeypad (Keypad.set k pressed))
    return true

/-- A key of the host goes down or up. Repetitions and keys without a meaning
    are passed on. -/
def keyEvent (code : Int) (pressed repeated : Bool) : Action (Window ρ) Bool := do
  if repeated then return true else return !(← key code pressed)

/-- The window becomes active or ceases to be. -/
def activation (isActive : Bool) (w : Window ρ) : Window ρ :=
  if isActive then w
  else { w with machine := { w.machine with keypad := .released } }

/-! ### Events -/

/-- What can happen to a window. -/
inductive Event where
  | timeout
  | press (code : Int) (repeated : Bool)
  | release (code : Int) (repeated : Bool)
  | activation (isActive : Bool)
  /-- A change of another kind. -/
  | otherChange (isActive : Bool)
  | close
  deriving DecidableEq, Repr

/-- The reaction to a key of the host. -/
def keyReaction (code : Int) (pressed repeated : Bool) (w : Window ρ) : Reaction ρ :=
  match keyEvent code pressed repeated w with
  | .ok passedOn w => ⟨w, [], none, passedOn⟩
  | .error f w => ⟨w, [], some f, false⟩

/-- The reaction to an event. Changes and closing are always passed on. -/
def handle [Source ρ] (w : Window ρ) : Event → Reaction ρ
  | .timeout => w.timeout
  | .press code repeated => w.keyReaction code true repeated
  | .release code repeated => w.keyReaction code false repeated
  | .activation isActive => ⟨w.activation isActive, [], none, true⟩
  | .otherChange _ => ⟨w, [], none, true⟩
  | .close => ⟨w.stop, [], none, true⟩

end Window

end Chip8
