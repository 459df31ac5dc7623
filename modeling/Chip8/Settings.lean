import Chip8.Instruction
import Chip8.Text.Basic

/-!
# Settings

What a user can choose: how the screen is shown, how fast the machine runs,
which keys of the host stand for the sixteen logical keys, and the seed of the
random source.

## Main definitions

* `TimerMode`: What the timers go by.
* `Layout`: The host key of each logical key.
* `Layout.order`: The order in which the logical keys are listed.
* `Settings`: All choices.
* `Settings.default`: The choices of a user who makes none.
-/

namespace Chip8

/-- What the timers go by. -/
inductive TimerMode where
  /-- Every cycle is a tick. -/
  | perCycle
  /-- Every frame is a tick. -/
  | perFrame
  deriving DecidableEq, Repr

/-- The name of a mode in documents. -/
def TimerMode.name : TimerMode → String
  | perCycle => "per_cycle"
  | perFrame => "60hz"

/-- How the screen is shown. -/
structure Display where
  /-- Host pixels per pixel and direction. -/
  scale : Nat
  foreground : Text
  background : Text
  deriving DecidableEq, Repr

/-- How fast the machine runs. -/
structure Timing where
  cyclesPerSecond : Nat
  framesPerSecond : Nat
  mode : TimerMode
  deriving DecidableEq, Repr

/-- The name of the host key of each logical key. -/
structure Layout where
  names : Vector Text 16
  deriving DecidableEq, Repr

namespace Layout

/-- The order in which the logical keys are listed: by the rows of the keypad,
    `123C`, `456D`, `789E`, `A0BF`. -/
def order : List Nibble :=
  [0x1, 0x2, 0x3, 0xC, 0x4, 0x5, 0x6, 0xD, 0x7, 0x8, 0x9, 0xE, 0xA, 0x0, 0xB, 0xF].map Word.n

/-- The host key of a logical key. -/
def name (l : Layout) (k : Nibble) : Text :=
  l.names.get k

/-- Give a logical key another host key. -/
def rename (l : Layout) (k : Nibble) (t : Text) : Layout :=
  ⟨l.names.set k t⟩

/-- The keypad on the left of a keyboard: `1234`, `QWER`, `ASDF`, `ZXCV`. -/
def default : Layout :=
  ⟨#v["X", "1", "2", "3", "Q", "W", "E", "A", "S", "D", "Z", "C", "4", "R", "F", "V"]⟩

/-- The logical keys with their host keys, in their order. -/
def entries (l : Layout) : List (Nibble × Text) :=
  order.map fun k => (k, l.name k)

end Layout

/-- All choices. -/
structure Settings where
  display : Display
  timing : Timing
  layout : Layout
  seed : Option Int
  deriving DecidableEq, Repr

namespace Settings

/-- The choices of a user who makes none. -/
def default : Settings where
  display := ⟨10, "#FFFFFF", "#000000"⟩
  timing := ⟨500, 60, .perCycle⟩
  layout := .default
  seed := none

end Settings

end Chip8
