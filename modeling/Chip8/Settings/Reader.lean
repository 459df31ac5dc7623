import Chip8.Document
import Chip8.Settings
import Chip8.Settings.Refusal

/-!
# Reading Settings

Settings from a document: a mapping with the sections `display`, `timing` and
`keymap` and the number `rng_seed`, all of which may be missing. A section
without content counts as missing.

Integers may be written as such or as texts: in base sixteen behind `0x`, and
in base ten otherwise. Colours and names of host keys may be any values, and
are taken as they are shown.

Problems are looked for in the order of the sections, and within a section in
the order of the choices.

## Main definitions

* `Settings.denoted?`: The integer that a value stands for.
* `Settings.read`: The settings of a document.
* `Settings.ofFile`: The settings of a file's document, empty or not.
-/

namespace Chip8

namespace Settings

/-- Whether a text is written in base sixteen. -/
def isMarkedHex : List Char → Bool
  | '0' :: c :: _ => c == 'x' || c == 'X'
  | _ => false

/-- The integer that a text stands for. -/
def textInteger? (s : List Char) : Option Int :=
  (Integer.read (if isMarkedHex s then 16 else 10) s).toOption

/-- The integer that a value stands for. Truth values and fractions stand for
    none. -/
def denoted? : Value → Option Int
  | .integer n => some n
  | .text t => textInteger? t.chars
  | _ => none

/-- The integer that a value has to stand for. -/
def integer (d : Document) (v : Value) : Except Refusal Int :=
  match denoted? v with
  | some n => .ok n
  | none => (Refusal.notInteger (d.view v)).raise

/-- A value as it is shown. -/
def shownText (d : Document) (v : Value) : Except Refusal Text :=
  let v := d.view v
  if v.isWritable then .ok v.shown else .error .unwritable

/-- The entries of a section. -/
def sectionOf (d : Document) (root : Value.Entries) (name : String) :
    Except Refusal Value.Entries :=
  match (Value.find? name root).map d.resolve with
  | none | some .null => .ok []
  | some (.mapping es) => .ok es
  | some v => (Refusal.sectionKind name v.kind).raise

/-- The value of a choice, or its default. -/
def choice (es : Value.Entries) (name : String) (standard : Value) : Value :=
  (Value.find? name es).getD standard

/-- The section on the display. -/
def readDisplay (d : Document) (es : Value.Entries) : Except Refusal Display := do
  let standard := Settings.default.display
  let scale ← integer d (choice es "scale" (.integer standard.scale))
  if scale ≤ 0 then (Refusal.scale scale).raise
  let foreground ← shownText d (choice es "foreground" (.text standard.foreground))
  let background ← shownText d (choice es "background" (.text standard.background))
  return ⟨scale.toNat, foreground, background⟩

/-- The mode of a name. -/
def timerMode? : Value → Option TimerMode
  | .text t =>
    if t = (TimerMode.perCycle.name : Text) then some .perCycle
    else if t = (TimerMode.perFrame.name : Text) then some .perFrame
    else none
  | _ => none

/-- The section on timing. -/
def readTiming (d : Document) (es : Value.Entries) : Except Refusal Timing := do
  let standard := Settings.default.timing
  let cycles ←
    integer d (choice es "cycles_per_second" (.integer standard.cyclesPerSecond))
  let frames ←
    integer d (choice es "frames_per_second" (.integer standard.framesPerSecond))
  let mode := choice es "timer_mode" (.text standard.mode.name)
  if cycles ≤ 0 ∨ frames ≤ 0 then (Refusal.rates cycles frames).raise
  match timerMode? mode with
  | some m => return ⟨cycles.toNat, frames.toNat, m⟩
  | none => (Refusal.timerMode (d.view mode)).raise

/-- Let an entry of the section on keys take effect. -/
def renameKey (d : Document) (l : Layout) (entry : Value × Value) : Except Refusal Layout := do
  let (k, host) := entry
  let n ← integer d k
  if 0 ≤ n ∧ n < 16 then return l.rename (Word.n n) (← shownText d host)
  else (Refusal.keyNumber (d.view k)).raise

/-- The section on keys. Its entries change the default layout one after the
    other. -/
def readLayout (d : Document) (es : Value.Entries) : Except Refusal Layout :=
  es.foldlM (renameKey d) Settings.default.layout

/-- The seed. -/
def readSeed (d : Document) (root : Value.Entries) : Except Refusal (Option Int) :=
  match Value.find? "rng_seed" root with
  | none | some .null => .ok none
  | some v => (integer d v).map some

/-- The settings of a document. -/
def read (d : Document) : Except Refusal Settings :=
  match d.resolve d.root with
  | .mapping root => do
    let display ← readDisplay d (← sectionOf d root "display")
    let timing ← readTiming d (← sectionOf d root "timing")
    let layout ← readLayout d (← sectionOf d root "keymap")
    let seed ← readSeed d root
    return ⟨display, timing, layout, seed⟩
  | v => (Refusal.rootKind v.kind).raise

/-- The settings of a file's document, where an empty one asks for nothing. -/
def ofFile (d : Document) : Except Refusal Settings :=
  read (if (d.resolve d.root).isEmpty then .ofValue (.mapping []) else d)

end Settings

end Chip8
