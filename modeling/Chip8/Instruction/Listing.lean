import Chip8.Instruction.Decode
import Chip8.Numeral.Padded

/-!
# Listings

The assembler text of an instruction: a mnemonic, and operands between commas.
The text shows every operand of the instruction and nothing else, so it tells
any two instructions apart.

## Main definitions

* `Instruction.mnemonic`: The name of the operation.
* `Instruction.operands`: The operands as written.
* `Instruction.text`: The line of a listing.
* `listing`: The lines of a range of words.
-/

namespace Chip8

namespace Instruction

/-- The name of the operation. -/
def mnemonic : Instruction → String
  | clear => "CLS"
  | ret => "RET"
  | jump _ | jumpFrom _ => "JP"
  | call _ => "CALL"
  | skipIs _ _ | skipSame _ _ => "SE"
  | skipIsNot _ _ | skipDiffer _ _ => "SNE"
  | increase _ _ | add _ _ | addIndex _ => "ADD"
  | or _ _ => "OR"
  | and _ _ => "AND"
  | xor _ _ => "XOR"
  | sub _ _ => "SUB"
  | shiftRight _ => "SHR"
  | subReverse _ _ => "SUBN"
  | shiftLeft _ => "SHL"
  | random _ _ => "RND"
  | draw _ _ _ => "DRW"
  | skipHeld _ => "SKP"
  | skipFree _ => "SKNP"
  | set _ _ | copy _ _ | setIndex _ | getDelay _ | awaitKey _ | setDelay _ | setSound _
  | pointGlyph _ | decimal _ | save _ | restore _ => "LD"
  | unknown _ => "UNKNOWN"

/-- A register as written. -/
def registerText (x : Nibble) : String :=
  "V" ++ Padded.hex 1 x.val

/-- A byte as written. -/
def byteText (kk : Immediate) : String :=
  "$" ++ Padded.hex 2 kk.val

/-- An address as written. -/
def targetText (a : Target) : String :=
  "$" ++ Padded.hex 3 a.val

/-- The operands as written. -/
def operands : Instruction → List String
  | clear | ret => []
  | jump a | call a => [targetText a]
  | skipIs x k | skipIsNot x k | set x k | increase x k | random x k =>
    [registerText x, byteText k]
  | skipSame x y | skipDiffer x y | copy x y | or x y | and x y | xor x y | add x y | sub x y
  | subReverse x y => [registerText x, registerText y]
  | shiftRight x | shiftLeft x | skipHeld x | skipFree x => [registerText x]
  | setIndex a => ["I", targetText a]
  | jumpFrom a => ["V0", targetText a]
  | draw x y n => [registerText x, registerText y, toString n.val]
  | getDelay x => [registerText x, "DT"]
  | awaitKey x => [registerText x, "K"]
  | setDelay x => ["DT", registerText x]
  | setSound x => ["ST", registerText x]
  | addIndex x => ["I", registerText x]
  | pointGlyph x => ["F", registerText x]
  | decimal x => ["B", registerText x]
  | save x => ["[I]", registerText x]
  | restore x => [registerText x, "[I]"]
  | unknown w => ["$" ++ Padded.word w]

/-- The line of a listing. -/
def text (i : Instruction) : String :=
  match i.operands with
  | [] => i.mnemonic
  | ops => i.mnemonic ++ " " ++ ", ".intercalate ops

/-- The lines of the words `start`, `start + step`, and so on below `stop`. -/
def listing (start stop : Int) (step : Nat) : List String :=
  (List.range ((stop - start + step - 1) / step).toNat).map fun (k : Nat) =>
    (decode (start + step * k)).text

end Instruction

end Chip8
