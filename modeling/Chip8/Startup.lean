import Chip8.CommandLine
import Chip8.Machine.Build
import Chip8.Settings.Reader
import Chip8.Window
import Chip8.Yaml.Document

/-!
# Starting the Program

From the options of a command line to a window that runs. The settings come
from a document if one is named, and options take precedence over it. Files
are looked up by a function, so that all of this is a matter of values. What comes
from the host is left to it: how it reads documents, which keys and colours it has
names for, and what the loop that serves the window ends with.

What goes wrong with files, settings and the program image is reported, and
the program ends with status one. A path that cannot be one, a document whose
bytes are no text, or whose scalars do not fit their tags, is not reported in
this way: such a failure goes through to the caller, as does any other one of the
reader that is no complaint about the form of the document.

## Main definitions

* `Obstacle`, `File`: What is found under a path.
* `Host`: What reads documents and serves windows.
* `Startup.Refusal`: Why the program does not start.
* `Startup.resolve`: The settings that hold.
* `Startup.prepare`: The machine with its program, the settings and the keys.
* `Startup.Launch`, `Startup.launch`: The outcome of a start.
-/

namespace Chip8

/-- Why nothing can be read under a path. -/
inductive Obstacle where
  | missing
  | directory
  /-- A file stands where the path goes on. -/
  | throughFile
  /-- A name on the way, or the whole path, is too long. -/
  | tooLong

namespace Obstacle

/-- The system's number of an obstacle. -/
def number : Obstacle → Nat
  | missing => 2
  | throughFile => 20
  | directory => 21
  | tooLong => 36

/-- The system's wording of an obstacle. -/
def wording : Obstacle → String
  | missing => "No such file or directory"
  | throughFile => "Not a directory"
  | directory => "Is a directory"
  | tooLong => "File name too long"

end Obstacle

/-- What is found under a path. -/
inductive File where
  | unreadable (o : Obstacle)
  | content (bytes : ByteArray)

/-- What the program leaves to its host. -/
class Host where
  /-- The document of a file, or why there is none. A document that is nested too deep for
      the host, be it to read it or to write its values into a message, counts as one at
      which the reader fails. -/
  documentOf : ByteArray → Except Yaml.Failure Document
  /-- What the loop that serves a window ends with. -/
  status : Window Generator → Nat

/-- A host with the reader of documents that there is here, whose loop ends well. -/
instance : Host := ⟨Yaml.documentOf, fun _ => 0⟩

namespace Startup

/-- Why the program does not start. -/
inductive Refusal where
  | file (o : Obstacle) (path : String)
  /-- A path holds the null character, which no path can. -/
  | nullInPath
  | document (f : Yaml.Failure)
  | settings (r : Settings.Refusal)
  | machine (f : Fault)
  /-- A rate or a scale was blanked on the command line. -/
  | blankAmount
  /-- The seed was. -/
  | blankSeed

namespace Refusal

/-- The wording of a refusal. -/
def message : Refusal → Text
  | file o p => s!"[Errno {o.number}] {o.wording}: {Quoted.write p}"
  | nullInPath => "embedded null byte"
  | document f => f.message
  | settings r => r.message
  | machine f => f.message
  | blankAmount => "'<=' not supported between instances of 'list' and 'int'"
  | blankSeed =>
    "The only supported seed types are: None,\nint, float, str, bytes, and bytearray."

/-- Whether the refusal is reported. Any other goes through to the caller. -/
def isReported : Refusal → Bool
  | file _ _ => true
  | document .malformed | document .unfinished => true
  | document _ => false
  | settings .unwritable => false
  | settings _ => true
  | machine f => f.halts
  | nullInPath | blankAmount | blankSeed => false

end Refusal

/-- The bytes of a file. -/
def contentOf (files : String → File) (path : String) : Except Refusal ByteArray :=
  if '\x00' ∈ path.toList then
    .error .nullInPath
  else
    match files path with
    | .unreadable o => .error (.file o path)
    | .content bytes => .ok bytes

/-- The settings of a document. -/
def settingsOf [Host] (files : String → File) (path : String) : Except Refusal Settings := do
  let bytes ← contentOf files path
  let d ← (Host.documentOf bytes).mapError .document
  (Settings.ofFile d).mapError .settings

/-- A choice on the command line, which has to be positive. -/
def positive (name : String) : CommandLine.Amount → Except Refusal Nat
  | .number n =>
    if n ≤ 0 then ((Settings.Refusal.option name n).raise).mapError .settings else .ok n.toNat
  | .blank => .error .blankAmount

/-- The seed of the command line, or else that of the settings. A blanked one
    is left for `checkSeed` to find. -/
def seedOver (chosen : Option CommandLine.Amount) (seed : Option Int) : Option Int :=
  match chosen with
  | some (.number n) => some n
  | _ => seed

/-- Refuse a seed that was blanked. -/
def checkSeed (o : CommandLine.Options) : Except Refusal Unit :=
  if o.seed = some .blank then .error .blankSeed else .ok ()

/-- The document's settings, or the defaults if no document is named, with the
    choices of the command line put over them. -/
def combine [Host] (files : String → File) (o : CommandLine.Options) :
    Except Refusal Settings := do
  let s ←
    match o.config with
    | some path => if path.isEmpty then pure Settings.default else settingsOf files path
    | none => pure Settings.default
  let s ←
    match o.scale with
    | some a => do
      let n ← positive "--scale" a
      pure { s with display := { s.display with scale := n } }
    | none => pure s
  let s ←
    match o.cps with
    | some a => do
      let n ← positive "--cps" a
      pure { s with timing := { s.timing with cyclesPerSecond := n } }
    | none => pure s
  return { s with seed := seedOver o.seed s.seed }

/-- The settings that hold. -/
def resolve [Host] (files : String → File) (o : CommandLine.Options) :
    Except Refusal Settings := do
  let s ← combine files o
  checkSeed o
  return s

/-- What a window is made of. -/
structure Prepared where
  settings : Settings
  bindings : Bindings
  machine : Machine Generator
  /-- The size of the program image. -/
  size : Nat

/-- The machine with its program, the settings and the keys. Without a seed in
    the settings, `fallback` is taken. The keys are looked at before the seed. -/
def prepare [Host] [KeyNames] (files : String → File) (fallback : Int)
    (o : CommandLine.Options) : Except Refusal Prepared := do
  let s ← combine files o
  let b ← (Bindings.ofLayout s.layout).mapError .settings
  checkSeed o
  let bytes ← contentOf files o.rom
  let image := bytes.toList.map Bytes.toInt
  match Machine.loadProgram image (Machine.build s fallback) with
  | .ok _ m => return ⟨s, b, m, image.length⟩
  | .error f _ => throw (.machine f)

/-- What becomes of a start. -/
inductive Launch where
  /-- The program ends at once. -/
  | failed (reason : Refusal)
  /-- A program image of some size was loaded, and the window is started. -/
  | opened (size : Nat) (window : Window Generator)

namespace Launch

/-- What is reported of a start. -/
def notice : Launch → Notice
  | failed r => .notStarted r.message
  | opened n _ => .loaded n

/-- The exit status, at once or when the loop has ended. -/
def status [Host] : Launch → Nat
  | failed _ => 1
  | opened _ w => Host.status w

end Launch

/-- The level from which on notices are of interest. -/
def level (o : CommandLine.Options) : Level :=
  if o.verbose then .debug else .info

/-- The outcome of a start. -/
def launch [Host] [KeyNames] [Palette] (files : String → File) (fallback : Int)
    (o : CommandLine.Options) : Except Refusal Launch :=
  match prepare files fallback o with
  | .ok p => .ok (.opened p.size (Window.make p.machine p.settings p.bindings).start)
  | .error r => if r.isReported then .ok (.failed r) else .error r

end Startup

end Chip8
