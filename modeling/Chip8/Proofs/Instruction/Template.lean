import Chip8.Instruction.Template
import Chip8.Proofs.Instruction.Listed

/-!
# Templates and Decoding

Decoding as the inverse of filling in templates.

The printed instruction set gives each instruction four characters: digits that
stand for themselves, and letters that stand for fields. Read that way, a template
and a choice of fields make a word. Decoding goes back: it finds the one template
that the word was made from, and the fields.

The two shifts are printed with a field that they do not use, so an instruction has
fewer operands than its template has letters. What is recovered is therefore said
twice, once for the fields of the word and once for the operands of the instruction.

## Main definitions

* `Template.Fields.reading`: The number that a printed template makes of fields.
* `Template.Makes`: A word is an instance of a template.
* `Template.IsListed`: A template is one of the instruction set.
* `Template.Agree`: Two choices of fields make the same of a template.
* `Instruction.refill`: An instruction with other operands.

## Theorems

* `Template.reading_text`: What is printed is read as the template is filled.
* `Template.agree_ofWord`: The fields of a word are those that it was made with.
* `Instruction.listed_refill`, `Instruction.filled_of_listed`: The list of words by
  templates.
* `Instruction.decode_of_makes`: What a template makes is decoded by it.
* `Instruction.find_of_perm`: The order of the table does not matter.
* `Instruction.decode_inverts_templates`: Decoding and the templates agree.
-/

namespace Chip8

namespace Template

/-! ### Templates as printed -/

/-- The value of a fixed digit. -/
def digitValue (c : Char) : Nat :=
  "0123456789ABCDEF".toList.idxOf c

/-- The number that a printed template makes of field values, read from its first
    character on. The letters `nnn` and `kk` stand for one field each, and only the
    last digit can be a single `n`. -/
def Fields.reading (f : Fields) : List Char → Nat
  | [] => 0
  | ['n', 'n', 'n'] => f.nnn
  | ['k', 'k'] => f.kk
  | ['n'] => f.n
  | 'x' :: r => f.x * 16 ^ r.length + f.reading r
  | 'y' :: r => f.y * 16 ^ r.length + f.reading r
  | c :: r => digitValue c * 16 ^ r.length + f.reading r

/-- A word is an instance of a template: its lower sixteen bits are what the printed
    template makes of the fields. -/
def Makes (t : Template) (f : Fields) (w : Int) : Prop :=
  (f.reading t.text.toList : Int) = w % 65536

/-- A template of the instruction set. -/
def IsListed (t : Template) : Prop :=
  ∃ i : Instruction, i.template = some t

/-- Two choices of fields agree on the fields that a template names. -/
def Agree : Template → Fields → Fields → Prop
  | fixed _, _, _ => True
  | target _, f, g => f.nnn = g.nnn
  | immediate _, f, g => f.x = g.x ∧ f.kk = g.kk
  | pair _ _, f, g => f.x = g.x ∧ f.y = g.y
  | sprite _, f, g => f.x = g.x ∧ f.y = g.y ∧ f.n = g.n
  | single _ _, f, g => f.x = g.x

/-- A digit counts by how many digits stand behind it. -/
theorem reading_digit (f : Fields) (d : Nibble) (r : List Char) :
    f.reading (digit d :: r) = d.val * 16 ^ r.length + f.reading r := by
  have hvalue : ∀ d, digitValue (digit d) = d.val := by decide
  -- No fixed digit is one of the letters.
  have hletter : ∀ d, digit d ≠ 'n' ∧ digit d ≠ 'k' ∧ digit d ≠ 'x' ∧ digit d ≠ 'y' := by decide
  rcases hletter d with ⟨hn, hk, hx, hy⟩
  rw [Fields.reading, hvalue]
  · exact fun h => absurd h hn
  · exact fun h => absurd h hk
  · exact fun h => absurd h hn
  · exact hx
  · exact hy

/-- The two digits of a byte are read as the byte. -/
theorem reading_byteDigits (f : Fields) (b : Immediate) :
    f.reading (byteDigits b) = b.val := by
  unfold byteDigits
  rw [reading_digit, reading_digit]
  simp only [List.length_singleton, List.length_nil, Fields.reading]
  omega

/-- Four digits are read as a word of two bytes. -/
theorem reading_byteDigits_append (f : Fields) (a b : Immediate) :
    f.reading (byteDigits a ++ byteDigits b) = a.val * 256 + b.val := by
  rw [← reading_byteDigits f b]
  unfold byteDigits
  simp only [List.cons_append, List.nil_append, reading_digit, List.length_cons, List.length_nil,
    Fields.reading]
  omega

/-- A printed template is read as the template is filled. -/
theorem reading_text (t : Template) (f : Fields) : f.reading t.text.toList = t.fill f := by
  unfold text fill
  cases t with
  | fixed w =>
      simp only [String.toList_ofList]
      rw [reading_byteDigits_append]
      simp only []
      omega
  | target a =>
      simp only [String.toList_ofList]
      rw [reading_digit]
      simp only [Fields.reading, List.length_cons, List.length_nil]
      omega
  | immediate a =>
      simp only [String.toList_ofList]
      rw [reading_digit]
      simp only [Fields.reading, List.length_cons, List.length_nil]
      omega
  | pair a d =>
      simp only [String.toList_ofList]
      rw [reading_digit]
      simp only [Fields.reading, List.length_cons, List.length_nil]
      rw [reading_digit]
      simp only [Fields.reading, List.length_nil]
      omega
  | sprite a =>
      simp only [String.toList_ofList]
      rw [reading_digit]
      simp only [Fields.reading, List.length_cons, List.length_nil]
      omega
  | single a b =>
      simp only [String.toList_ofList, List.cons_append, List.nil_append]
      rw [reading_digit]
      simp only [Fields.reading, List.length_cons]
      rw [reading_byteDigits]
      simp only [byteDigits, List.length_cons, List.length_nil]
      omega

/-- Four digits make a word, whatever is filled in. -/
theorem fill_lt (t : Template) (f : Fields) : t.fill f < 65536 := by
  have hx := f.x.isLt
  have hy := f.y.isLt
  have hn := f.n.isLt
  have hkk := f.kk.isLt
  have hnnn := f.nnn.isLt
  unfold fill
  cases t <;> simp only [] <;> omega

/-- A template makes all integers that are its word modulo 65536. -/
theorem makes_iff (t : Template) (f : Fields) (w : Int) :
    t.Makes f w ↔ w % 65536 = t.fill f := by
  unfold Makes
  rw [reading_text]
  exact eq_comm

/-! ### Fields -/

/-- Only the places that a template leaves open are read from the fields. -/
theorem fill_congr {t : Template} {f g : Fields} (h : t.Agree f g) : t.fill f = t.fill g := by
  unfold fill
  cases t with
  | fixed w => rfl
  | target a => rw [show f.nnn = g.nnn from h]
  | immediate a => rw [h.1, h.2]
  | pair a d => rw [h.1, h.2]
  | sprite a => rw [h.1, h.2.1, h.2.2]
  | single a b => rw [show f.x = g.x from h]

/-- The fields of a word are those that it was made with. -/
theorem agree_ofWord {t : Template} {f : Fields} {w : Int} (h : w = t.fill f) :
    t.Agree f (Fields.ofWord w) := by
  have hx := f.x.isLt
  have hy := f.y.isLt
  have hn := f.n.isLt
  have hkk := f.kk.isLt
  have hnnn := f.nnn.isLt
  cases t with
  | fixed v => trivial
  | target a =>
      simp only [fill] at h
      exact Word.fin_eq (by rw [Fields.ofWord, Word.val_nnn]; omega)
  | immediate a =>
      simp only [fill] at h
      exact ⟨Word.fin_eq (by rw [Fields.ofWord, Word.val_x]; omega),
        Word.fin_eq (by rw [Fields.ofWord, Word.val_kk]; omega)⟩
  | pair a d =>
      simp only [fill] at h
      exact ⟨Word.fin_eq (by rw [Fields.ofWord, Word.val_x]; omega),
        Word.fin_eq (by rw [Fields.ofWord, Word.val_y]; omega)⟩
  | sprite a =>
      simp only [fill] at h
      exact ⟨Word.fin_eq (by rw [Fields.ofWord, Word.val_x]; omega),
        Word.fin_eq (by rw [Fields.ofWord, Word.val_y]; omega),
        Word.fin_eq (by rw [Fields.ofWord, Word.val_n]; omega)⟩
  | single a b =>
      simp only [fill] at h
      exact Word.fin_eq (by rw [Fields.ofWord, Word.val_x]; omega)

/-- Fields are taken from the lower sixteen bits. -/
theorem Fields.ofWord_mod (w : Int) : Fields.ofWord (w % 65536) = Fields.ofWord w := by
  unfold Fields.ofWord
  rw [Fields.mk.injEq]
  refine ⟨Word.fin_eq ?_, Word.fin_eq ?_, Word.fin_eq ?_, Word.fin_eq ?_, Word.fin_eq ?_⟩
  · rw [Word.val_x, Word.val_x]
    omega
  · rw [Word.val_y, Word.val_y]
    omega
  · rw [Word.val_n, Word.val_n]
    omega
  · rw [Word.val_kk, Word.val_kk]
    omega
  · rw [Word.val_nnn, Word.val_nnn]
    omega

end Template

namespace Instruction

open Template

/-! ### Operands -/

/-- The instruction of the same kind with the operands that fields give it. -/
def refill (i : Instruction) (f : Fields) : Instruction :=
  match i with
  | clear => clear
  | ret => ret
  | jump _ => jump f.nnn
  | call _ => call f.nnn
  | skipIs _ _ => skipIs f.x f.kk
  | skipIsNot _ _ => skipIsNot f.x f.kk
  | skipSame _ _ => skipSame f.x f.y
  | set _ _ => set f.x f.kk
  | increase _ _ => increase f.x f.kk
  | copy _ _ => copy f.x f.y
  | or _ _ => or f.x f.y
  | and _ _ => and f.x f.y
  | xor _ _ => xor f.x f.y
  | add _ _ => add f.x f.y
  | sub _ _ => sub f.x f.y
  | shiftRight _ => shiftRight f.x
  | subReverse _ _ => subReverse f.x f.y
  | shiftLeft _ => shiftLeft f.x
  | skipDiffer _ _ => skipDiffer f.x f.y
  | setIndex _ => setIndex f.nnn
  | jumpFrom _ => jumpFrom f.nnn
  | random _ _ => random f.x f.kk
  | draw _ _ _ => draw f.x f.y f.n
  | skipHeld _ => skipHeld f.x
  | skipFree _ => skipFree f.x
  | getDelay _ => getDelay f.x
  | awaitKey _ => awaitKey f.x
  | setDelay _ => setDelay f.x
  | setSound _ => setSound f.x
  | addIndex _ => addIndex f.x
  | pointGlyph _ => pointGlyph f.x
  | decimal _ => decimal f.x
  | save _ => save f.x
  | restore _ => restore f.x
  | unknown w => unknown w

/-- Other fields do not change what the template of an instruction is. -/
theorem template_refill (i : Instruction) (f : Fields) : (i.refill f).template = i.template := by
  cases i <;> rfl

/-- Only the fields that the template names become operands. -/
theorem refill_congr {i : Instruction} {t : Template} {f g : Fields} (h : i.template = some t)
    (hfg : t.Agree f g) : i.refill f = i.refill g := by
  cases i with
  | clear | ret | unknown w => rfl
  | jump a | call a | setIndex a | jumpFrom a =>
      cases h
      simp only [refill, show f.nnn = g.nnn from hfg]
  | skipIs x kk | skipIsNot x kk | set x kk | increase x kk | random x kk =>
      cases h
      simp only [refill, hfg.1, hfg.2]
  | skipSame x y | skipDiffer x y | copy x y | or x y | and x y | xor x y | add x y | sub x y
  | subReverse x y =>
      cases h
      simp only [refill, hfg.1, hfg.2]
  | shiftRight x | shiftLeft x =>
      cases h
      simp only [refill, hfg.1]
  | draw x y n =>
      cases h
      simp only [refill, hfg.1, hfg.2.1, hfg.2.2]
  | skipHeld x | skipFree x | getDelay x | awaitKey x | setDelay x | setSound x | addIndex x
  | pointGlyph x | decimal x | save x | restore x =>
      cases h
      simp only [refill, show f.x = g.x from hfg]

/-! ### The list by templates -/

section

variable {t : Template} (f : Fields)

/-- The words of a template without open places. This and the next five give the words
    of templates by their form. -/
theorem fill_fixed {w : Fin 65536} (h : some (fixed w) = some t) : (t.fill f : Int) = w.val := by
  cases h
  rfl

theorem fill_target {a : Nibble} (h : some (target a) = some t) :
    (t.fill f : Int) = (4096 * a.val : Nat) + f.nnn.val := by
  cases h
  simp only [fill]
  omega

theorem fill_immediate {a : Nibble} (h : some (immediate a) = some t) :
    (t.fill f : Int) = (4096 * a.val : Nat) + 256 * f.x.val + f.kk.val := by
  cases h
  simp only [fill]
  omega

theorem fill_pair {a d : Nibble} (h : some (pair a d) = some t) :
    (t.fill f : Int) = (4096 * a.val + d.val : Nat) + 256 * f.x.val + 16 * f.y.val := by
  cases h
  simp only [fill]
  omega

theorem fill_sprite {a : Nibble} (h : some (sprite a) = some t) :
    (t.fill f : Int) = (4096 * a.val : Nat) + 256 * f.x.val + 16 * f.y.val + f.n.val := by
  cases h
  simp only [fill]
  omega

theorem fill_single {a : Nibble} {b : Immediate} (h : some (single a b) = some t) :
    (t.fill f : Int) = (4096 * a.val + b.val : Nat) + 256 * f.x.val := by
  cases h
  simp only [fill]
  omega

end

/-- What a template makes is listed, with the operands that its fields give. -/
theorem listed_refill {i : Instruction} {t : Template} (h : i.template = some t) (f : Fields) :
    Listed (t.fill f) (i.refill f) := by
  cases i with
  | clear => exact .of_eq .clear (fill_fixed f h)
  | ret => exact .of_eq .ret (fill_fixed f h)
  | jump a => exact .of_eq (.jump f.nnn) (fill_target f h)
  | call a => exact .of_eq (.call f.nnn) (fill_target f h)
  | skipIs x kk => exact .of_eq (.skipIs f.x f.kk) (fill_immediate f h)
  | skipIsNot x kk => exact .of_eq (.skipIsNot f.x f.kk) (fill_immediate f h)
  | skipSame x y => exact .of_eq (.skipSame f.x f.y) (fill_pair f h)
  | set x kk => exact .of_eq (.set f.x f.kk) (fill_immediate f h)
  | increase x kk => exact .of_eq (.increase f.x f.kk) (fill_immediate f h)
  | copy x y => exact .of_eq (.copy f.x f.y) (fill_pair f h)
  | or x y => exact .of_eq (.or f.x f.y) (fill_pair f h)
  | and x y => exact .of_eq (.and f.x f.y) (fill_pair f h)
  | xor x y => exact .of_eq (.xor f.x f.y) (fill_pair f h)
  | add x y => exact .of_eq (.add f.x f.y) (fill_pair f h)
  | sub x y => exact .of_eq (.sub f.x f.y) (fill_pair f h)
  | shiftRight x => exact .of_eq (.shiftRight f.x f.y) (fill_pair f h)
  | subReverse x y => exact .of_eq (.subReverse f.x f.y) (fill_pair f h)
  | shiftLeft x => exact .of_eq (.shiftLeft f.x f.y) (fill_pair f h)
  | skipDiffer x y => exact .of_eq (.skipDiffer f.x f.y) (fill_pair f h)
  | setIndex a => exact .of_eq (.setIndex f.nnn) (fill_target f h)
  | jumpFrom a => exact .of_eq (.jumpFrom f.nnn) (fill_target f h)
  | random x kk => exact .of_eq (.random f.x f.kk) (fill_immediate f h)
  | draw x y n => exact .of_eq (.draw f.x f.y f.n) (fill_sprite f h)
  | skipHeld x => exact .of_eq (.skipHeld f.x) (fill_single f h)
  | skipFree x => exact .of_eq (.skipFree f.x) (fill_single f h)
  | getDelay x => exact .of_eq (.getDelay f.x) (fill_single f h)
  | awaitKey x => exact .of_eq (.awaitKey f.x) (fill_single f h)
  | setDelay x => exact .of_eq (.setDelay f.x) (fill_single f h)
  | setSound x => exact .of_eq (.setSound f.x) (fill_single f h)
  | addIndex x => exact .of_eq (.addIndex f.x) (fill_single f h)
  | pointGlyph x => exact .of_eq (.pointGlyph f.x) (fill_single f h)
  | decimal x => exact .of_eq (.decimal f.x) (fill_single f h)
  | save x => exact .of_eq (.save f.x) (fill_single f h)
  | restore x => exact .of_eq (.restore f.x) (fill_single f h)
  | unknown w => cases h

/-- A listed word is made by the template of its instruction, from fields that give the
    instruction its operands. -/
theorem filled_of_listed {w : Int} {i : Instruction} (h : Listed w i) :
    ∃ t f, i.template = some t ∧ (t.fill f : Int) = w ∧ i.refill f = i := by
  cases h with
  | clear => exact ⟨_, .ofWord 0, rfl, rfl, rfl⟩
  | ret => exact ⟨_, .ofWord 0, rfl, rfl, rfl⟩
  | jump a | call a | setIndex a | jumpFrom a =>
      exact ⟨_, ⟨0, 0, 0, 0, a⟩, rfl, fill_target _ rfl, rfl⟩
  | skipIs x kk | skipIsNot x kk | set x kk | increase x kk | random x kk =>
      exact ⟨_, ⟨x, 0, 0, kk, 0⟩, rfl, fill_immediate _ rfl, rfl⟩
  | skipSame x y | skipDiffer x y | copy x y | or x y | and x y | xor x y | add x y | sub x y
  | subReverse x y | shiftRight x y | shiftLeft x y =>
      exact ⟨_, ⟨x, y, 0, 0, 0⟩, rfl, fill_pair _ rfl, rfl⟩
  | draw x y n => exact ⟨_, ⟨x, y, n, 0, 0⟩, rfl, fill_sprite _ rfl, rfl⟩
  | skipHeld x | skipFree x | getDelay x | awaitKey x | setDelay x | setSound x | addIndex x
  | pointGlyph x | decimal x | save x | restore x =>
      exact ⟨_, ⟨x, 0, 0, 0, 0⟩, rfl, fill_single _ rfl, rfl⟩

/-- The list has no words that are no instructions. -/
theorem ne_unknown_of_listed {w : Int} {i : Instruction} (h : Listed w i) (v : Int) :
    i ≠ unknown v := by
  rintro rfl
  cases h

/-! ### The table -/

/-- The row that is found accepts the word. -/
theorem accepts_of_find {l : List Row} {r : Row} {w : Int}
    (h : l.find? (·.accepts w) = some r) : r.accepts w = true :=
  List.find?_some (p := fun r : Row => r.accepts w) h

/-- At most one row accepts a word. -/
theorem countP_accepts_le (w : Int) : rows.countP (·.accepts w) ≤ 1 := by
  have hexclusive := (rows_exclusive w).filter (·.accepts w)
  rw [List.countP_eq_length_filter]
  cases h : rows.filter (·.accepts w) with
  | nil => exact Nat.zero_le 1
  | cons r l =>
      cases l with
      | nil => exact Nat.le_refl 1
      | cons s l =>
          -- Both of the first two rows would accept the word.
          have hr := (List.mem_filter.mp (h ▸ List.mem_cons_self)).2
          have hs := (List.mem_filter.mp (h ▸ List.mem_cons_of_mem r List.mem_cons_self)).2
          rw [h, List.pairwise_cons] at hexclusive
          exact (hexclusive.1 s List.mem_cons_self hr hs).elim

/-- The order of the rows does not matter. -/
theorem find_of_perm {l : List Row} (hl : l.Perm rows) (w : Int) :
    l.find? (·.accepts w) = rows.find? (·.accepts w) := by
  cases h : rows.find? (·.accepts w) with
  | none =>
      rw [List.find?_eq_none] at h ⊢
      exact fun r hr => h r (hl.mem_iff.mp hr)
  | some r =>
      have hexclusive := (hl.pairwise_iff fun h ha hb => h hb ha).mpr (rows_exclusive w)
      exact find_accepting (accepts_of_find h) hexclusive
        (hl.mem_iff.mpr (List.mem_of_find?_eq_some h))

/-! ### Decoding by templates -/

/-- Rows look at the last sixteen bits of an integer only. -/
theorem accepts_mod (r : Row) (w : Int) : r.accepts (w % 65536) = r.accepts w := by
  unfold Row.accepts Word.low
  rw [Int.emod_emod]

/-- A row reads nothing but fields. -/
theorem read_mod {r : Row} (hr : r ∈ rows) (w : Int) : r.read (w % 65536) = r.read w := by
  have hfields := Fields.ofWord_mod w
  unfold Fields.ofWord at hfields
  rw [Fields.mk.injEq] at hfields
  rcases hfields with ⟨hx, hy, hn, hkk, hnnn⟩
  revert r
  simp only [rows, List.forall_mem_cons, List.not_mem_nil, false_implies, implies_true, and_true,
    hx, hy, hn, hkk, hnnn]

/-- A word is no instruction, and then kept as it is, or its lower sixteen bits are
    listed as what it is decoded to. -/
theorem unknown_or_listed (w : Int) : decode w = unknown w ∨ Listed (w % 65536) (decode w) := by
  have hrange : Word.InRange (w % 65536) := ⟨by omega, by omega⟩
  unfold decode
  cases h : rows.find? (·.accepts w) with
  | none => exact Or.inl rfl
  | some r =>
      have hmem := List.mem_of_find?_eq_some h
      have hlisted := listed_of_accepts hrange r hmem ((accepts_mod r w).trans (accepts_of_find h))
      rw [read_mod hmem] at hlisted
      exact Or.inr hlisted

/-- So does the table, for integers outside the range of words. -/
theorem decode_of_listed_mod {w : Int} {i : Instruction} (h : Listed (w % 65536) i) :
    decode w = i := by
  have hlow := decode_of_listed h
  unfold decode at hlow ⊢
  simp only [accepts_mod] at hlow
  cases hfind : rows.find? (·.accepts w) with
  | none =>
      rw [hfind] at hlow
      exact absurd hlow.symm (ne_unknown_of_listed h _)
  | some r =>
      rw [hfind] at hlow
      exact (read_mod (List.mem_of_find?_eq_some hfind) w).symm.trans hlow

/-- What a template makes is decoded to its instruction, with the operands that the
    fields give. -/
theorem decode_of_makes {i : Instruction} {t : Template} {f : Fields} {w : Int}
    (ht : i.template = some t) (h : t.Makes f w) : decode w = i.refill f := by
  have hlisted := listed_refill ht f
  rw [← (makes_iff t f w).mp h] at hlisted
  exact decode_of_listed_mod hlisted

/-- What is decoded to an instruction is made by its template from the word's own
    fields, which are its operands. -/
theorem makes_of_decode (w : Int) :
    decode w = unknown w ∨ ∃ t, (decode w).template = some t ∧ t.Makes (Fields.ofWord w) w ∧
      (decode w).refill (Fields.ofWord w) = decode w := by
  rcases unknown_or_listed w with hunknown | hlisted
  · exact Or.inl hunknown
  · rcases filled_of_listed hlisted with ⟨t, f, ht, hw, hrefill⟩
    have hfields := agree_ofWord hw.symm
    rw [Fields.ofWord_mod] at hfields
    refine Or.inr ⟨t, ht, ?_, ?_⟩
    · rw [makes_iff, ← fill_congr hfields, hw]
    · rw [← refill_congr ht hfields, hrefill]

/-- A word has the template of what it is decoded to, and no other. -/
theorem template_decode_iff (w : Int) (t : Template) :
    (decode w).template = some t ↔ t.IsListed ∧ ∃ f, t.Makes f w := by
  constructor
  · intro ht
    rcases makes_of_decode w with hunknown | ⟨u, hu, hmakes, -⟩
    · rw [hunknown] at ht
      cases ht
    · rw [Option.some.inj (ht.symm.trans hu)]
      exact ⟨⟨_, hu⟩, _, hmakes⟩
  · rintro ⟨⟨i, hi⟩, f, hmakes⟩
    rw [decode_of_makes hi hmakes, template_refill, hi]

/-- A word is kept as it is if no template makes it. -/
theorem decode_eq_unknown_iff (w : Int) :
    decode w = unknown w ↔ ∀ (t : Template) f, t.IsListed → ¬ t.Makes f w := by
  constructor
  · intro hunknown t f ht hmakes
    have htemplate := (template_decode_iff w t).mpr ⟨ht, f, hmakes⟩
    rw [hunknown] at htemplate
    cases htemplate
  · intro hnone
    rcases makes_of_decode w with hunknown | ⟨t, ht, hmakes, -⟩
    · exact hunknown
    · exact absurd hmakes (hnone t _ ⟨_, ht⟩)

/-- Decoding and the templates agree. Every integer has the lower sixteen bits of an
    instance of at most one template. It is decoded to the instruction of that template,
    or kept as it is if there is none. Its fields are those of its lower sixteen bits
    and go back into the template to make them again. At most one row of the table
    accepts it, so the order of the rows does not matter. Conversely, whatever fields a
    template is filled with, they are what is decoded. -/
theorem decode_inverts_templates :
    (∀ w : Int,
      (∀ t u : Template, ∀ f g, t.IsListed → u.IsListed → t.Makes f w → u.Makes g w → t = u) ∧
      (∀ t, (decode w).template = some t ↔ t.IsListed ∧ ∃ f, t.Makes f w) ∧
      (decode w = unknown w ↔ ∀ (t : Template) f, t.IsListed → ¬ t.Makes f w) ∧
      Fields.ofWord w = Fields.ofWord (w % 65536) ∧
      (∀ t, (decode w).template = some t →
        t.Makes (Fields.ofWord w) w ∧ (decode w).refill (Fields.ofWord w) = decode w) ∧
      rows.countP (·.accepts w) ≤ 1 ∧
      ∀ l : List Row, l.Perm rows → l.find? (·.accepts w) = rows.find? (·.accepts w)) ∧
    ∀ (i : Instruction) (t : Template) (f : Fields), i.template = some t →
      decode (f.reading t.text.toList) = i.refill f ∧
        t.Agree f (Fields.ofWord (f.reading t.text.toList)) := by
  refine ⟨fun w => ⟨?_, template_decode_iff w, decode_eq_unknown_iff w,
    (Fields.ofWord_mod w).symm, ?_, countP_accepts_le w, fun l hl => find_of_perm hl w⟩, ?_⟩
  · intro t u f g ht hu hf hg
    -- Both are the template of what the word is decoded to.
    have htemplate := (template_decode_iff w t).mpr ⟨ht, f, hf⟩
    rw [(template_decode_iff w u).mpr ⟨hu, g, hg⟩] at htemplate
    exact (Option.some.inj htemplate).symm
  · intro t ht
    rcases makes_of_decode w with hunknown | ⟨u, hu, hmakes, hrefill⟩
    · rw [hunknown] at ht
      cases ht
    · rw [Option.some.inj (ht.symm.trans hu)]
      exact ⟨hmakes, hrefill⟩
  · intro i t f ht
    rw [reading_text]
    have hlt := fill_lt t f
    exact ⟨decode_of_makes ht ((makes_iff t f _).mpr (by omega)), agree_ofWord rfl⟩

/-- A shift is decoded by its template, whatever stands for the field that it does not
    use. -/
theorem filled_shift_decodes : decode 0x8AB6 = shiftRight 0xA :=
  (decode_inverts_templates.2 (shiftRight 0) _ ⟨0xA, 0xB, 0, 0, 0⟩ rfl).1

end Instruction

end Chip8
