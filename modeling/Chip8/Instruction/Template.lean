import Chip8.Instruction.Decode

/-!
# Templates

The printed form of the instruction set writes each instruction as four
digits, some fixed and some standing for a field: `8xy4`, `6xkk`, `1nnn`. A
template can be filled with fields, and the words that arise are the
instances of the template.

## Main definitions

* `Template`: The six shapes of templates.
* `Template.text`: A template as printed.
* `Template.Fields`, `Template.fill`: Field values, and the word they make.
* `Instruction.template`: The template of an instruction.
-/

namespace Chip8

/-- The shapes of instruction templates, with their fixed digits. -/
inductive Template where
  /-- A single word, such as `00E0`. -/
  | fixed (word : Fin 65536)
  /-- An address, such as `1nnn`. -/
  | target (first : Nibble)
  /-- A register and a byte, such as `6xkk`. -/
  | immediate (first : Nibble)
  /-- Two registers, such as `8xy4`. -/
  | pair (first last : Nibble)
  /-- Two registers and a count, such as `Dxyn`. -/
  | sprite (first : Nibble)
  /-- One register, such as `Fx07`. -/
  | single (first : Nibble) (low : Immediate)
  deriving DecidableEq, Repr

namespace Template

/-- A digit as printed. -/
def digit (d : Nibble) : Char :=
  "0123456789ABCDEF".toList.getD d.val '?'

/-- The digits of a byte as printed. -/
def byteDigits (b : Immediate) : List Char :=
  [digit ⟨b.val / 16, by omega⟩, digit ⟨b.val % 16, by omega⟩]

/-- A template as printed: fixed digits in capitals, fields in small letters. -/
def text : Template → String
  | fixed w =>
    String.ofList (byteDigits ⟨w.val / 256, by omega⟩ ++ byteDigits ⟨w.val % 256, by omega⟩)
  | target a => String.ofList [digit a, 'n', 'n', 'n']
  | immediate a => String.ofList [digit a, 'x', 'k', 'k']
  | pair a d => String.ofList [digit a, 'x', 'y', digit d]
  | sprite a => String.ofList [digit a, 'x', 'y', 'n']
  | single a b => String.ofList ([digit a, 'x'] ++ byteDigits b)

/-- Values for all fields that a template may name. -/
structure Fields where
  x : Nibble
  y : Nibble
  n : Nibble
  kk : Immediate
  nnn : Target
  deriving DecidableEq, Repr

/-- The fields of a word. -/
def Fields.ofWord (w : Int) : Fields :=
  ⟨Word.x w, Word.y w, Word.n w, Word.kk w, Word.nnn w⟩

/-- The word that a template makes of field values. Fields that the template
    does not name play no part. -/
def fill (t : Template) (f : Fields) : Nat :=
  match t with
  | fixed w => w
  | target a => 4096 * a + f.nnn
  | immediate a => 4096 * a + 256 * f.x + f.kk
  | pair a d => 4096 * a + 256 * f.x + 16 * f.y + d
  | sprite a => 4096 * a + 256 * f.x + 16 * f.y + f.n
  | single a b => 4096 * a + 256 * f.x + b

end Template

namespace Instruction

open Template in
/-- The template of an instruction; none for a word that is no instruction. -/
def template : Instruction → Option Template
  | clear => fixed 0x00E0
  | ret => fixed 0x00EE
  | jump _ => target 1
  | call _ => target 2
  | skipIs _ _ => immediate 3
  | skipIsNot _ _ => immediate 4
  | skipSame _ _ => pair 5 0
  | set _ _ => immediate 6
  | increase _ _ => immediate 7
  | copy _ _ => pair 8 0
  | or _ _ => pair 8 1
  | and _ _ => pair 8 2
  | xor _ _ => pair 8 3
  | add _ _ => pair 8 4
  | sub _ _ => pair 8 5
  | shiftRight _ => pair 8 6
  | subReverse _ _ => pair 8 7
  | shiftLeft _ => pair 8 0xE
  | skipDiffer _ _ => pair 9 0
  | setIndex _ => target 0xA
  | jumpFrom _ => target 0xB
  | random _ _ => immediate 0xC
  | draw _ _ _ => sprite 0xD
  | skipHeld _ => single 0xE 0x9E
  | skipFree _ => single 0xE 0xA1
  | getDelay _ => single 0xF 0x07
  | awaitKey _ => single 0xF 0x0A
  | setDelay _ => single 0xF 0x15
  | setSound _ => single 0xF 0x18
  | addIndex _ => single 0xF 0x1E
  | pointGlyph _ => single 0xF 0x29
  | decimal _ => single 0xF 0x33
  | save _ => single 0xF 0x55
  | restore _ => single 0xF 0x65
  | unknown _ => none

/-- The template as printed, with question marks for a word that is no
    instruction. -/
def templateText (i : Instruction) : String :=
  match i.template with
  | some t => t.text
  | none => "????"

end Instruction

end Chip8
