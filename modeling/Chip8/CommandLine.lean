import Chip8.Numeral.Integer
import Chip8.Text.Quoted

/-!
# The Command Line

A program image and switches. A switch is written in full, or shortened as far
as no other switch begins the same; its value is the next word, or follows an
equals sign. Switches of one letter may share a word, with or without an equals
sign behind the first. Switches may stand anywhere and come repeatedly, the
last value counting. Words that look like negative numbers are no switches, and
behind a lone `--` nothing is. Behind an equals sign `--` is no value, but
blanks the one that the switch would have had.

All words are sorted into switches and others before any of them takes effect,
so an ambiguous switch is found first. The rest is read from left to right, and
the first mistake, or a call for help, ends it.

## Main definitions

* `CommandLine.Switch`: The switches.
* `CommandLine.Word`: What a word is taken for.
* `CommandLine.Amount`: The values of switches that take an integer.
* `CommandLine.Options`: What a command line asks for.
* `CommandLine.Complaint`: The mistakes.
* `CommandLine.parse`: The reading of a command line.
-/

namespace Chip8

namespace CommandLine

/-! ### Switches -/

/-- The switches. -/
inductive Switch where
  | help
  | config
  | scale
  | cps
  | seed
  | verbose
  deriving DecidableEq, Repr

namespace Switch

/-- All spellings, in the order in which they are listed. -/
def spellings : List (String × Switch) :=
  [("-h", help), ("--help", help), ("--config", config), ("--scale", scale), ("--cps", cps),
   ("--seed", seed), ("-v", verbose), ("--verbose", verbose)]

/-- Whether a switch takes a value. -/
def takesValue : Switch → Bool
  | help | verbose => false
  | config | scale | cps | seed => true

/-- How mistakes name a switch. -/
def title : Switch → String
  | help => "-h/--help"
  | config => "--config"
  | scale => "--scale"
  | cps => "--cps"
  | seed => "--seed"
  | verbose => "-v/--verbose"

end Switch

/-! ### Mistakes -/

/-- What is wrong with a command line. -/
inductive Complaint where
  /-- A shortened switch could be several. -/
  | ambiguous (word : String) (candidates : List String)
  /-- A switch without a value was given one. -/
  | superfluous (s : Switch) (value : String)
  /-- The value of a switch is missing. -/
  | missingValue (s : Switch)
  /-- The value of a switch is no integer. -/
  | notInteger (s : Switch) (value : String)
  /-- There is no program image. -/
  | missingRom
  /-- Words that mean nothing. -/
  | unrecognized (words : List String)
  deriving DecidableEq, Repr

/-- The wording of a mistake. -/
def Complaint.message : Complaint → String
  | ambiguous w cs => s!"ambiguous option: {w} could match " ++ ", ".intercalate cs
  | superfluous s v =>
    s!"argument {s.title}: ignored explicit argument {Quoted.write v}"
  | missingValue s => s!"argument {s.title}: expected one argument"
  | notInteger s v => s!"argument {s.title}: invalid int value: {Quoted.write v}"
  | missingRom => "the following arguments are required: rom"
  | unrecognized ws => "unrecognized arguments: " ++ " ".intercalate ws

/-- Why a command line is not followed. -/
inductive Stop where
  /-- Help was called for. -/
  | help
  | complaint (c : Complaint)
  deriving DecidableEq, Repr

/-- How to use the program, in short. -/
def usage : String :=
  "\n".intercalate
    ["usage: chip8-vm [-h] [--config CONFIG] [--scale SCALE] [--cps CPS]",
     "                [--seed SEED] [-v]",
     "                rom",
     ""]

/-- How to use the program. -/
def helpText : String :=
  usage ++ "\n".intercalate
    ["",
     "CHIP-8 virtual machine",
     "",
     "positional arguments:",
     "  rom              Path to a raw CHIP-8 program image",
     "",
     "options:",
     "  -h, --help       show this help message and exit",
     "  --config CONFIG  YAML machine configuration file",
     "  --scale SCALE    Display scale factor",
     "  --cps CPS        Instruction cycles per second",
     "  --seed SEED      Seed for the random byte generator",
     "  -v, --verbose    Enable debug logging",
     ""]

namespace Stop

/-- The exit status. -/
def status : Stop → Nat
  | help => 0
  | complaint _ => 2

/-- What is printed on standard output. -/
def output : Stop → String
  | help => helpText
  | complaint _ => ""

/-- What is printed on standard error. -/
def errors : Stop → String
  | help => ""
  | complaint c => usage ++ "chip8-vm: error: " ++ c.message ++ "\n"

end Stop

/-! ### Words -/

/-- What a word is taken for. -/
inductive Word where
  /-- The program image, or the value of a switch. -/
  | operand (text : String)
  /-- The mark behind which there are no switches. -/
  | separator
  /-- A switch, whether it is written by its letter, and what follows it in
      the word. -/
  | switch (s : Switch) (isShort : Bool) (value : Option String)
  /-- It looks like a switch and is none. -/
  | unknown (text : String)
  deriving DecidableEq, Repr

/-- A text cut at its first equals sign. -/
def cutAtEquals (s : List Char) : List Char × Option String :=
  match s.dropWhile (· ≠ '=') with
  | [] => (s, none)
  | _ :: value => (s.takeWhile (· ≠ '='), some (String.ofList value))

/-- Whether a text is a negative number: a dash and digits, perhaps with a
    point among them or before them. -/
def isNegativeNumber (s : List Char) : Bool :=
  let isDigit (c : Char) : Bool := (Digit.decimal c).isSome
  let s := if s.getLast? = some '\n' then s.dropLast else s
  match s with
  | '-' :: r =>
    match r.dropWhile isDigit with
    | [] => !r.isEmpty
    | '.' :: part => !part.isEmpty && part.all isDigit
    | _ => false
  | _ => false

/-- The switches that a word may stand for without being one of them: those
    that it shortens, or the one whose letter it begins with. -/
def candidates (s : List Char) : List (String × Word) :=
  match s with
  | '-' :: '-' :: _ =>
    let (name, value) := cutAtEquals s
    Switch.spellings.filterMap fun (spelling, switch) =>
      if name.isPrefixOf spelling.toList then some (spelling, .switch switch false value) else none
  | _ =>
    Switch.spellings.filterMap fun (spelling, switch) =>
      if spelling.toList = s.take 2 then
        some (spelling, .switch switch true (some (String.ofList (s.drop 2))))
      else none

/-- Whether a spelling is a dash and a letter. -/
def isShort (spelling : List Char) : Bool :=
  spelling.length == 2

/-- What a word before the separator is taken for. -/
def classify (text : String) : Except Complaint Word :=
  let s := text.toList
  if s.head? ≠ some '-' then .ok (.operand text)
  else
    match Switch.spellings.lookup text with
    | some switch => .ok (.switch switch (isShort s) none)
    | none =>
      if s.length = 1 then .ok (.operand text)
      else
        let (name, value) := cutAtEquals s
        match if value.isSome then Switch.spellings.lookup (String.ofList name) else none with
        | some switch => .ok (.switch switch (isShort name) value)
        | none =>
          match candidates s with
          | [(_, w)] => .ok w
          | [] =>
            if isNegativeNumber s || s.contains ' ' then .ok (.operand text)
            else .ok (.unknown text)
          | several => .error (.ambiguous text (several.map Prod.fst))

/-- What the words of a command line are taken for. -/
def classifyAll : List String → Except Complaint (List Word)
  | [] => .ok []
  | w :: ws =>
    if w = "--" then .ok (.separator :: ws.map .operand)
    else do return (← classify w) :: (← classifyAll ws)

/-! ### Reading -/

/-- The value of a switch that takes an integer. -/
inductive Amount where
  | number (n : Int)
  /-- The value was blanked. -/
  | blank
  deriving DecidableEq, Repr

/-- What a command line asks for. -/
structure Options where
  rom : String
  config : Option String
  scale : Option Amount
  cps : Option Amount
  seed : Option Amount
  verbose : Bool
  deriving DecidableEq, Repr

/-- What has been read so far. -/
structure Reading where
  rom : Option String
  config : Option String
  scale : Option Amount
  cps : Option Amount
  seed : Option Amount
  verbose : Bool
  /-- Words that mean nothing. -/
  extras : List String

/-- Nothing read. -/
def Reading.start : Reading :=
  ⟨none, none, none, none, none, false, []⟩

/-- Let a switch without a value take effect. -/
def Reading.flag (r : Reading) (s : Switch) : Except Stop Reading :=
  match s with
  | .help => .error .help
  | .verbose => .ok { r with verbose := true }
  | _ => .ok r

/-- What blanks the value of a switch. -/
def blankMark : String := "--"

/-- The amount of a value, which has to be an integer unless it is blanked. -/
def amount (s : Switch) (value : String) : Except Stop Amount :=
  if value = blankMark then .ok .blank
  else
    match Integer.read 10 value.toList with
    | .ok n => .ok (.number n)
    | .error _ => .error (.complaint (.notInteger s value))

/-- Let a switch with its value take effect. Without its value, `--config`
    names no document. -/
def Reading.option (r : Reading) (s : Switch) (value : String) : Except Stop Reading :=
  match s with
  | .config => .ok { r with config := if value = blankMark then none else some value }
  | .scale => do return { r with scale := some (← amount s value) }
  | .cps => do return { r with cps := some (← amount s value) }
  | .seed => do return { r with seed := some (← amount s value) }
  | _ => .ok r

/-- The switches of one letter in a word that goes on behind the first. What
    follows a switch has to be others. -/
def cluster (s : Switch) : List Char → Except Complaint (List Switch)
  | [] => .ok [s]
  | c :: rest =>
    match Switch.spellings.lookup (String.ofList ['-', c]) with
    | none => .error (.superfluous s (String.ofList (c :: rest)))
    | some next => do return s :: (← cluster next rest)

/-- Let a switch with what follows it in the word take effect: its value, or
    more switches of one letter. All of the word is looked at before any of
    them takes effect. -/
def Reading.assign (r : Reading) (s : Switch) (isShort : Bool) (value : String) :
    Except Stop Reading :=
  if s.takesValue then r.option s value
  else if isShort && !value.isEmpty then do
    let switches ← (cluster s value.toList).mapError .complaint
    switches.foldlM Reading.flag r
  else .error (.complaint (.superfluous s value))

/-- Read words from left to right. The separator is dropped beside the program
    image. -/
def Reading.words (r : Reading) : List Word → Except Stop Reading
  | [] => .ok r
  | .operand w :: .separator :: rest =>
    if r.rom.isNone then words { r with rom := some w } rest
    else words { r with extras := r.extras ++ [w, "--"] } rest
  | .operand w :: rest =>
    if r.rom.isNone then words { r with rom := some w } rest
    else words { r with extras := r.extras ++ [w] } rest
  | .separator :: .operand w :: rest =>
    if r.rom.isNone then words { r with rom := some w } rest
    else words { r with extras := r.extras ++ ["--", w] } rest
  | .separator :: rest => words { r with extras := r.extras ++ ["--"] } rest
  | .unknown w :: rest => words { r with extras := r.extras ++ [w] } rest
  | .switch s isShort (some value) :: rest => do words (← r.assign s isShort value) rest
  | .switch s _ none :: rest =>
    if s.takesValue then
      match rest with
      | .operand value :: rest => do words (← r.option s value) rest
      | _ => .error (.complaint (.missingValue s))
    else do words (← r.flag s) rest

/-- The reading of a command line. A missing program image is noticed before
    words that mean nothing. -/
def parse (arguments : List String) : Except Stop Options := do
  let words ← (classifyAll arguments).mapError .complaint
  let r ← Reading.start.words words
  match r.rom with
  | none => throw (.complaint .missingRom)
  | some rom =>
    if r.extras.isEmpty then return ⟨rom, r.config, r.scale, r.cps, r.seed, r.verbose⟩
    else throw (.complaint (.unrecognized r.extras))

end CommandLine

end Chip8
