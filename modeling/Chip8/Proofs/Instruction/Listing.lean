import Chip8.Instruction.Listing
import Chip8.Machine.Execute
import Chip8.Proofs.Instruction.Template
import Chip8.Proofs.Numeral.Padded

/-!
# Listings Read Back

An assembler for the lines of a listing.

A line is a mnemonic and operands, and each of them shows what it is: registers begin
with `V`, numbers in base sixteen with `$`, and their length tells bytes, addresses and
words apart. The mnemonics are shared by many instructions, so it takes all the
operands to find the one that was written.

That every line is read back as the instruction it was written from says that no two
instructions are written alike.

## Main definitions

* `Operand`: What a part of a line stands for.
* `Instruction.assemble?`: The instruction of a mnemonic and operands.
* `Instruction.ofLine?`: The instruction of a line.

## Theorems

* `Operand.ofChars_register` and so on: Operands are read back.
* `Instruction.words_text`: A line is cut into its words.
* `Instruction.ofLine?_text`: A line is read back.
* `Instruction.text_determines_effect`: What is listed alike has the same effect.
-/

namespace Chip8

/-- What a part of a line stands for. -/
inductive Operand where
  | register (x : Nibble)
  | byte (kk : Immediate)
  | address (a : Target)
  | count (n : Nibble)
  | word (w : Int)
  /-- A name that stands for itself, such as `DT`. -/
  | name (s : String)
  deriving DecidableEq

namespace Operand

/-- The integer of a numeral, or zero if it is none. -/
def number (base : Nat) (s : List Char) : Int :=
  match Integer.read base s with
  | .ok n => n
  | .error _ => 0

/-- What a number of some places in base sixteen stands for. -/
def ofNumber (n : Int) : Nat → Operand
  | 2 => .byte (Word.kk n)
  | 3 => .address (Word.nnn n)
  | _ => .word n

/-- What a part of a line stands for. -/
def ofChars : List Char → Operand
  | 'V' :: s => .register (Word.n (number 16 s))
  | '$' :: s => ofNumber (number 16 s) s.length
  | s => if s.all Char.isDigit then .count (Word.n (number 10 s)) else .name (String.ofList s)

end Operand

namespace Instruction

open Operand in
/-- The instruction of a mnemonic and operands. -/
def assemble? : String → List Operand → Option Instruction
  | "CLS", [] => some clear
  | "RET", [] => some ret
  | "JP", [address a] => some (jump a)
  | "CALL", [address a] => some (call a)
  | "SE", [register x, byte kk] => some (skipIs x kk)
  | "SNE", [register x, byte kk] => some (skipIsNot x kk)
  | "SE", [register x, register y] => some (skipSame x y)
  | "LD", [register x, byte kk] => some (set x kk)
  | "ADD", [register x, byte kk] => some (increase x kk)
  | "LD", [register x, register y] => some (copy x y)
  | "OR", [register x, register y] => some (or x y)
  | "AND", [register x, register y] => some (and x y)
  | "XOR", [register x, register y] => some (xor x y)
  | "ADD", [register x, register y] => some (add x y)
  | "SUB", [register x, register y] => some (sub x y)
  | "SHR", [register x] => some (shiftRight x)
  | "SUBN", [register x, register y] => some (subReverse x y)
  | "SHL", [register x] => some (shiftLeft x)
  | "SNE", [register x, register y] => some (skipDiffer x y)
  | "LD", [name "I", address a] => some (setIndex a)
  | "JP", [register _, address a] => some (jumpFrom a)
  | "RND", [register x, byte kk] => some (random x kk)
  | "DRW", [register x, register y, count n] => some (draw x y n)
  | "SKP", [register x] => some (skipHeld x)
  | "SKNP", [register x] => some (skipFree x)
  | "LD", [register x, name "DT"] => some (getDelay x)
  | "LD", [register x, name "K"] => some (awaitKey x)
  | "LD", [name "DT", register x] => some (setDelay x)
  | "LD", [name "ST", register x] => some (setSound x)
  | "ADD", [name "I", register x] => some (addIndex x)
  | "LD", [name "F", register x] => some (pointGlyph x)
  | "LD", [name "B", register x] => some (decimal x)
  | "LD", [name "[I]", register x] => some (save x)
  | "LD", [register x, name "[I]"] => some (restore x)
  | "UNKNOWN", [word w] => some (unknown w)
  | _, _ => none

/-- The instruction of a line. Commas are passed over, and what stands between blanks
    are the mnemonic and the operands. -/
def ofLine? (line : String) : Option Instruction :=
  match (line.toList.filter (· ≠ ',')).splitOn ' ' with
  | [] => none
  | m :: ops => assemble? (String.ofList m) (ops.map Operand.ofChars)

end Instruction

/-! ### Operands -/

namespace Operand

/-- A number that is written in base sixteen is read as itself. -/
theorem number_hex (width : Nat) (n : Int) : number 16 (Padded.hex width n).toList = n := by
  unfold number
  rw [Padded.read_hex]

/-- The name of a register is read as that register. -/
theorem ofChars_register (x : Nibble) :
    ofChars (Instruction.registerText x).toList = register x := by
  have hletter : ∀ s, ofChars ("V".toList ++ s) = register (Word.n (number 16 s)) := fun s => rfl
  have hx : Word.n x.val = x := Word.fin_eq (by rw [Word.val_n]; omega)
  unfold Instruction.registerText
  rw [String.toList_append, hletter, number_hex, hx]

/-- Behind its mark a number is read by how many digits it has. -/
theorem ofChars_number (width : Nat) (n : Int) :
    ofChars ("$" ++ Padded.hex width n).toList = ofNumber n (Padded.hex width n).toList.length := by
  have hmark : ∀ s, ofChars ("$".toList ++ s) = ofNumber (number 16 s) s.length := fun s => rfl
  rw [String.toList_append, hmark, number_hex]

theorem ofChars_byte (kk : Immediate) : ofChars (Instruction.byteText kk).toList = byte kk := by
  have hkk : Word.kk kk.val = kk := Word.fin_eq (by rw [Word.val_kk]; omega)
  unfold Instruction.byteText
  rw [ofChars_number, Padded.length_hex (by decide) kk.isLt, ofNumber, hkk]

theorem ofChars_address (a : Target) : ofChars (Instruction.targetText a).toList = address a := by
  have ha : Word.nnn a.val = a := Word.fin_eq (by rw [Word.val_nnn]; omega)
  unfold Instruction.targetText
  rw [ofChars_number, Padded.length_hex (by decide) a.isLt, ofNumber, ha]

/-- A word has at least four places, more than a byte or an address. -/
theorem ofChars_word (w : Int) : ofChars ("$" ++ Padded.word w).toList = word w := by
  have hlength := Padded.le_length_hex 4 w
  unfold Padded.word
  rw [ofChars_number, ofNumber]
  · omega
  · omega

theorem ofChars_count : ∀ n : Nibble, ofChars (toString n.val).toList = count n := by
  decide

end Operand

/-! ### Words of a line -/

/-- A text without blanks and commas. -/
def IsWord (s : List Char) : Prop :=
  ∀ c ∈ s, c ≠ ' ' ∧ c ≠ ','

-- Looking through the text is named here, since going through all characters would do too.
instance : DecidablePred IsWord :=
  List.decidableBAll fun c => c ≠ ' ' ∧ c ≠ ','

/-- Numerals have no blank and no comma in them. -/
theorem isWord_hex (width : Nat) (n : Int) : IsWord (Padded.hex width n).toList := by
  rcases Padded.exists_hex width n with ⟨d, ds, hlt, -, htext⟩
  rw [htext]
  refine List.forall_mem_append.mpr ⟨?_, fun c hc => ?_⟩
  · by_cases hn : n < 0
    · rw [if_pos hn]
      exact show IsWord ['-'] by decide
    · rw [if_neg hn]
      exact List.forall_mem_nil _
  · rcases List.mem_map.mp hc with ⟨e, he, rfl⟩
    exact ⟨Padded.capital_ne e (hlt e he) ' ' (by decide),
      Padded.capital_ne e (hlt e he) ',' (by decide)⟩

theorem isWord_append {s t : String} (hs : IsWord s.toList) (ht : IsWord t.toList) :
    IsWord (s ++ t).toList := by
  rw [String.toList_append]
  exact List.forall_mem_append.mpr ⟨hs, ht⟩

theorem isWord_count : ∀ n : Nibble, IsWord (toString n.val).toList := by
  decide

/-- Words between commas and blanks are words between blanks once the commas are dropped. -/
theorem filter_intercalate {l : List (List Char)} (h : ∀ s ∈ l, IsWord s) :
    ([',', ' '].intercalate l).filter (· ≠ ',') = [' '].intercalate l := by
  have hword : ∀ s ∈ l, s.filter (· ≠ ',') = s := fun s hs =>
    List.filter_eq_self.mpr fun c hc => decide_eq_true (h s hs c hc).2
  induction l with
  | nil => rfl
  | cons s l ih =>
      cases l with
      | nil =>
          rw [List.intercalate_singleton, List.intercalate_singleton]
          exact hword s List.mem_cons_self
      | cons t l =>
          rw [List.forall_mem_cons] at h hword
          rw [List.intercalate_cons_cons, List.intercalate_cons_cons, List.filter_append,
            List.filter_append, ih h.2 hword.2, hword.1]
          rfl

namespace Instruction

/-- No instruction has a name of two words. -/
theorem isWord_mnemonic (i : Instruction) : IsWord i.mnemonic.toList := by
  cases i <;> simp only [mnemonic] <;> decide

/-- No operand has a comma or a blank in it, so that a line can be cut up again. -/
theorem isWord_operands (i : Instruction) : ∀ s ∈ i.operands, IsWord s.toList := by
  have hregister : ∀ x, IsWord (registerText x).toList := fun x =>
    isWord_append (by decide) (isWord_hex 1 x.val)
  have hbyte : ∀ kk, IsWord (byteText kk).toList := fun kk =>
    isWord_append (by decide) (isWord_hex 2 kk.val)
  have haddress : ∀ a, IsWord (targetText a).toList := fun a =>
    isWord_append (by decide) (isWord_hex 3 a.val)
  have hname : ∀ s ∈ ["I", "V0", "DT", "K", "ST", "F", "B", "[I]"], IsWord s.toList := by decide
  unfold operands
  cases i with
  | clear | ret => exact List.forall_mem_nil _
  | jump a | call a => exact List.forall_mem_singleton.mpr (haddress a)
  | skipIs x k | skipIsNot x k | set x k | increase x k | random x k =>
      exact List.forall_mem_cons.mpr ⟨hregister x, List.forall_mem_singleton.mpr (hbyte k)⟩
  | skipSame x y | skipDiffer x y | copy x y | or x y | and x y | xor x y | add x y | sub x y
  | subReverse x y =>
      exact List.forall_mem_cons.mpr ⟨hregister x, List.forall_mem_singleton.mpr (hregister y)⟩
  | shiftRight x | shiftLeft x | skipHeld x | skipFree x =>
      exact List.forall_mem_singleton.mpr (hregister x)
  | setIndex a | jumpFrom a =>
      exact List.forall_mem_cons.mpr
        ⟨hname _ (by decide), List.forall_mem_singleton.mpr (haddress a)⟩
  | draw x y n =>
      exact List.forall_mem_cons.mpr ⟨hregister x, List.forall_mem_cons.mpr
        ⟨hregister y, List.forall_mem_singleton.mpr (isWord_count n)⟩⟩
  | getDelay x | awaitKey x | restore x =>
      exact List.forall_mem_cons.mpr
        ⟨hregister x, List.forall_mem_singleton.mpr (hname _ (by decide))⟩
  | setDelay x | setSound x | addIndex x | pointGlyph x | decimal x | save x =>
      exact List.forall_mem_cons.mpr
        ⟨hname _ (by decide), List.forall_mem_singleton.mpr (hregister x)⟩
  | unknown w =>
      exact List.forall_mem_singleton.mpr (isWord_append (by decide)
        (isWord_hex 4 w))

/-- A line is cut into its mnemonic and its operands. -/
theorem words_text (i : Instruction) :
    (i.text.toList.filter (· ≠ ',')).splitOn ' ' =
      i.mnemonic.toList :: i.operands.map String.toList := by
  have hmnemonic := isWord_mnemonic i
  have hoperands : ∀ s ∈ i.operands.map String.toList, IsWord s :=
    List.forall_mem_map.mpr (isWord_operands i)
  have hdrop : i.mnemonic.toList.filter (· ≠ ',') = i.mnemonic.toList :=
    List.filter_eq_self.mpr fun c hc => decide_eq_true (hmnemonic c hc).2
  have hjoin : i.text.toList.filter (· ≠ ',') =
      [' '].intercalate (i.mnemonic.toList :: i.operands.map String.toList) := by
    unfold text
    cases hops : i.operands with
    | nil =>
        rw [List.map_nil, List.intercalate_singleton]
        exact hdrop
    | cons s ops =>
        rw [hops] at hoperands
        simp only [String.toList_append, String.toList_intercalate, List.filter_append, hdrop]
        rw [List.intercalate_cons_of_ne_nil (by simp only [List.map_cons, ne_eq, reduceCtorEq,
          not_false_eq_true]), ← filter_intercalate hoperands]
        rfl
  rw [hjoin]
  refine List.splitOn_intercalate ' ' (List.forall_mem_cons.mpr ⟨?_, fun s hs => ?_⟩)
    (List.cons_ne_nil _ _)
  · exact fun hc => (hmnemonic _ hc).1 rfl
  · exact fun hc => (hoperands s hs _ hc).1 rfl

/-- The mnemonic and the operands are those of no other instruction. -/
theorem assemble?_operands (i : Instruction) :
    assemble? i.mnemonic ((i.operands.map String.toList).map Operand.ofChars) = some i := by
  cases i <;> simp only [operands, List.map_cons, List.map_nil, Operand.ofChars_register,
    Operand.ofChars_byte, Operand.ofChars_address, Operand.ofChars_count, Operand.ofChars_word] <;>
    rfl

/-- A line is read back as the instruction that it was written from. -/
theorem ofLine?_text (i : Instruction) : ofLine? i.text = some i := by
  unfold ofLine?
  rw [words_text]
  simp only [String.ofList_toList]
  exact assemble?_operands i

/-- No two instructions are written alike. -/
theorem text_injective {i j : Instruction} (h : i.text = j.text) : i = j := by
  have hread := ofLine?_text i
  rw [h, ofLine?_text] at hread
  exact (Option.some.inj hread).symm

/-- A word that is no instruction is kept whole. -/
theorem eq_of_decode_eq_unknown {v w : Int} (h : decode w = unknown v) : w = v := by
  rcases unknown_or_listed w with hunknown | hlisted
  · exact unknown.inj (hunknown.symm.trans h)
  · exact absurd h (ne_unknown_of_listed hlisted v)

/-- Words that are listed alike are the same instruction with the same operands, and so
    have the same effect on every machine: the same result, or the same fault with the
    same state left behind, the same draws, and the same notice. Words that are listed
    as no instruction are not listed alike unless they are the same integer. -/
theorem text_determines_effect {v w : Int} (h : (decode v).text = (decode w).text) :
    (decode v).template = (decode w).template ∧ decode v = decode w ∧
    (∀ {ρ : Type} [Source ρ] (m : Machine ρ),
      Machine.execute (decode v) m = Machine.execute (decode w) m) ∧
    (decode v = unknown v → v = w) := by
  have hsame := text_injective h
  refine ⟨by rw [hsame], hsame, fun m => by rw [hsame], fun hunknown => ?_⟩
  exact (eq_of_decode_eq_unknown (hsame.symm.trans hunknown)).symm

/-- The field that a shift does not use makes no difference, and neither do the bits
    above the lower sixteen. -/
theorem shifts_listed_alike :
    (decode 0x8AB6).text = (decode (0x8AC6 - 0x20000)).text ∧
      decode 0x8AB6 = decode (0x8AC6 - 0x20000) :=
  have htext : (decode 0x8AB6).text = (decode (0x8AC6 - 0x20000)).text := by rfl
  ⟨htext, (text_determines_effect htext).2.1⟩

end Instruction

end Chip8
