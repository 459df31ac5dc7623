import Chip8.Fault
import Chip8.Text.Basic

/-!
# Notices

What the program reports while it runs: a level and a line of text.

## Main definitions

* `Level`: How grave a notice is.
* `Notice`: What is reported.
* `Notice.reaches`: Whether it is grave enough.
* `Notice.text`, `Notice.line`: The wording, without and with the level.
-/

namespace Chip8

/-- How grave a notice is. -/
inductive Level where
  | debug
  | info
  | warning
  | error
  deriving DecidableEq, Repr

/-- The name of a level. -/
def Level.name : Level → String
  | .debug => "DEBUG"
  | .info => "INFO"
  | .warning => "WARNING"
  | .error => "ERROR"

/-- Levels in order of gravity. -/
def Level.grade : Level → Nat
  | .debug => 0
  | .info => 1
  | .warning => 2
  | .error => 3

/-- What is reported. -/
inductive Notice where
  /-- A word that is no instruction was passed over at an address. -/
  | skipped (word : Int) (address : Int)
  /-- A program image was loaded. -/
  | loaded (size : Nat)
  /-- A fault halted the program. -/
  | halted (pc : Int) (fault : Fault)
  /-- The machine could not be started. -/
  | notStarted (reason : Text)
  deriving DecidableEq, Repr

namespace Notice

/-- The level of a notice. -/
def level : Notice → Level
  | skipped _ _ => .warning
  | loaded _ => .info
  | halted _ _ => .error
  | notStarted _ => .error

/-- Whether a notice is at least as grave as a level. -/
def reaches (n : Notice) (l : Level) : Bool :=
  l.grade ≤ n.level.grade

/-- The wording of a notice. -/
def text : Notice → Text
  | skipped w a => s!"Unknown instruction {Padded.word w} at {Padded.address a} (skipping)"
  | loaded n => s!"Loaded {n} bytes"
  | halted pc f => s!"Execution halted at {Padded.address pc}: {f.message}"
  | notStarted reason => "Cannot start machine: " ++ reason

/-- The line of a notice. -/
def line (n : Notice) : Text :=
  (n.level.name ++ " ") ++ n.text

end Notice

end Chip8
