import Chip8.Startup

/-!
# The Program

The command line and the event loop. The loop reads one event a line from
standard input: `timer`, `press CODE`, `release CODE`, `focus`, `blur` and
`close`. After each event the screen is printed, a line for each row, followed
by the status. The program ends with the input, or when the window is closed.

## Main definitions

* `Terminal.eventOf`: The event of a line.
* `Terminal.rows`: The screen in characters.
* `main`: The program.
-/

namespace Chip8

namespace Terminal

/-- The event of a line, if it is one. -/
def eventOf (line : String) : Option Window.Event :=
  match (line.splitOn " ").filter (!·.isEmpty) with
  | ["timer"] => some .timeout
  | ["press", code] => code.toInt?.map (.press · false)
  | ["release", code] => code.toInt?.map (.release · false)
  | ["focus"] => some (.activation true)
  | ["blur"] => some (.activation false)
  | ["close"] => some .close
  | _ => none

/-- The rows of a screen. -/
def rows (s : Screen) : List String :=
  (List.finRange 32).map fun row =>
    String.ofList ((List.finRange 64).map fun col => if s.lit (row, col) then '#' else '.')

/-- The obstacle behind an error of the file system. -/
def obstacleOf (e : IO.Error) : Obstacle :=
  match e with
  | .inappropriateType _ code _ =>
    if code.toNat = Obstacle.throughFile.number then .throughFile else .directory
  | .invalidArgument _ code _ =>
    if code.toNat = Obstacle.tooLong.number then .tooLong else .missing
  | _ => .missing

/-- What is found under a path. -/
def lookUp (path : String) : IO File := do
  try
    return .content (← IO.FS.readBinFile path)
  catch e =>
    return .unreadable (obstacleOf e)

/-- The files that a command line names. -/
def filesOf (o : CommandLine.Options) : IO (String → File) := do
  let rom ← lookUp o.rom
  let config ← lookUp (o.config.getD "")
  return fun path => if path = o.rom then rom else if some path = o.config then config else
    .unreadable .missing

/-- Report on standard error what reaches a level. -/
def report (level : Level) (notices : List Notice) : IO Unit :=
  (notices.filter (·.reaches level)).forM fun n => IO.eprintln n.line

/-- Print what a window shows. -/
def display (w : Window Generator) : IO Unit := do
  (rows w.machine.screen).forM IO.println
  IO.println ((w.status.map Status.text).getD "")

/-- The event loop. -/
partial def loop (level : Level) (w : Window Generator) : IO Unit := do
  let line ← (← IO.getStdin).getLine
  if line.isEmpty then return
  match eventOf line.trimAscii.toString with
  | none => loop level w
  | some e =>
    let r := w.handle e
    report level r.notices
    display r.window
    unless e = .close do loop level r.window

end Terminal

end Chip8

open Chip8 in
/-- Read the command line, start, and run until the input ends. -/
def main (arguments : List String) : IO UInt32 := do
  match CommandLine.parse arguments with
  | .error stop =>
    IO.print stop.output
    IO.eprint stop.errors
    return UInt32.ofNat stop.status
  | .ok o =>
    let level := Startup.level o
    match Startup.launch (← Terminal.filesOf o) (← IO.rand 0 0x3FFFFFFF) o with
    | .error r =>
      IO.eprintln r.message
      return 1
    | .ok l =>
      Terminal.report level [l.notice]
      match l with
      | .failed _ => return UInt32.ofNat l.status
      | .opened _ w =>
        Terminal.loop level w
        return UInt32.ofNat l.status
