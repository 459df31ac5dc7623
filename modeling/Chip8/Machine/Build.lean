import Chip8.Machine
import Chip8.Random.Generator
import Chip8.Settings

/-!
# Machines from Settings

## Main definitions

* `Machine.build`: The machine that settings ask for.
-/

namespace Chip8

namespace Machine

/-- The machine that settings ask for. Its timers go by cycles unless they go
    by frames. Without a seed in the settings, `fallback` is taken. -/
def build (s : Settings) (fallback : Int) : Machine Generator :=
  .initial (.ofSeed (s.seed.getD fallback)) (s.timing.mode != .perFrame)

end Machine

end Chip8
