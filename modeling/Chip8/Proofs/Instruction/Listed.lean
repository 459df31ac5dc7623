import Chip8.Instruction.Decode
import Mathlib.Data.Nat.Bitwise

/-!
# The Instruction List

The instruction set as it is written down, a pattern of hexadecimal digits for
each instruction, and the agreement of decoding with it.

Decoding tests a word by masks. The four masks in use keep the first digit and
some of the last ones, so what a test asks of a word is linear arithmetic, and
two rows of the table contradict each other on bits that both of them test.

## Main definitions

* `Listed`: The words of an instruction.
* `Word.InRange`: A word of sixteen bits.

## Theorems

* `Row.accepts_iff`: What a row tests, without masks.
* `Instruction.rows_exclusive`: No word passes the test of two rows.
* `Instruction.decode_of_listed`: A listed word is decoded as it is listed.
* `Instruction.listed_decode`: What is decoded is listed.
* `Instruction.listed_iff`: Decoding and the list agree.
-/

namespace Chip8

/-- The words of an instruction, digit by digit. The middle digit of the two
    shifts is free. -/
inductive Listed : Int → Instruction → Prop
  | clear : Listed 0x00E0 .clear
  | ret : Listed 0x00EE .ret
  | jump (a : Target) : Listed (0x1000 + a.val) (.jump a)
  | call (a : Target) : Listed (0x2000 + a.val) (.call a)
  | skipIs (x : Nibble) (kk : Immediate) : Listed (0x3000 + 256 * x.val + kk.val) (.skipIs x kk)
  | skipIsNot (x : Nibble) (kk : Immediate) :
    Listed (0x4000 + 256 * x.val + kk.val) (.skipIsNot x kk)
  | skipSame (x y : Nibble) : Listed (0x5000 + 256 * x.val + 16 * y.val) (.skipSame x y)
  | set (x : Nibble) (kk : Immediate) : Listed (0x6000 + 256 * x.val + kk.val) (.set x kk)
  | increase (x : Nibble) (kk : Immediate) :
    Listed (0x7000 + 256 * x.val + kk.val) (.increase x kk)
  | copy (x y : Nibble) : Listed (0x8000 + 256 * x.val + 16 * y.val) (.copy x y)
  | or (x y : Nibble) : Listed (0x8001 + 256 * x.val + 16 * y.val) (.or x y)
  | and (x y : Nibble) : Listed (0x8002 + 256 * x.val + 16 * y.val) (.and x y)
  | xor (x y : Nibble) : Listed (0x8003 + 256 * x.val + 16 * y.val) (.xor x y)
  | add (x y : Nibble) : Listed (0x8004 + 256 * x.val + 16 * y.val) (.add x y)
  | sub (x y : Nibble) : Listed (0x8005 + 256 * x.val + 16 * y.val) (.sub x y)
  | shiftRight (x y : Nibble) : Listed (0x8006 + 256 * x.val + 16 * y.val) (.shiftRight x)
  | subReverse (x y : Nibble) : Listed (0x8007 + 256 * x.val + 16 * y.val) (.subReverse x y)
  | shiftLeft (x y : Nibble) : Listed (0x800E + 256 * x.val + 16 * y.val) (.shiftLeft x)
  | skipDiffer (x y : Nibble) : Listed (0x9000 + 256 * x.val + 16 * y.val) (.skipDiffer x y)
  | setIndex (a : Target) : Listed (0xA000 + a.val) (.setIndex a)
  | jumpFrom (a : Target) : Listed (0xB000 + a.val) (.jumpFrom a)
  | random (x : Nibble) (kk : Immediate) : Listed (0xC000 + 256 * x.val + kk.val) (.random x kk)
  | draw (x y n : Nibble) : Listed (0xD000 + 256 * x.val + 16 * y.val + n.val) (.draw x y n)
  | skipHeld (x : Nibble) : Listed (0xE09E + 256 * x.val) (.skipHeld x)
  | skipFree (x : Nibble) : Listed (0xE0A1 + 256 * x.val) (.skipFree x)
  | getDelay (x : Nibble) : Listed (0xF007 + 256 * x.val) (.getDelay x)
  | awaitKey (x : Nibble) : Listed (0xF00A + 256 * x.val) (.awaitKey x)
  | setDelay (x : Nibble) : Listed (0xF015 + 256 * x.val) (.setDelay x)
  | setSound (x : Nibble) : Listed (0xF018 + 256 * x.val) (.setSound x)
  | addIndex (x : Nibble) : Listed (0xF01E + 256 * x.val) (.addIndex x)
  | pointGlyph (x : Nibble) : Listed (0xF029 + 256 * x.val) (.pointGlyph x)
  | decimal (x : Nibble) : Listed (0xF033 + 256 * x.val) (.decimal x)
  | save (x : Nibble) : Listed (0xF055 + 256 * x.val) (.save x)
  | restore (x : Nibble) : Listed (0xF065 + 256 * x.val) (.restore x)

/-- The same word, written otherwise. -/
theorem Listed.of_eq {v w : Int} {i : Instruction} (h : Listed v i) (hw : w = v) : Listed w i := by
  rw [hw]
  exact h

/-! ### Fields as numbers -/

namespace Word

theorem val_x (w : Int) : ((x w).val : Int) = w / 256 % 16 := by
  unfold x
  simp only []
  omega

theorem val_y (w : Int) : ((y w).val : Int) = w / 16 % 16 := by
  unfold y
  simp only []
  omega

theorem val_n (w : Int) : ((n w).val : Int) = w % 16 := by
  unfold n
  simp only []
  omega

theorem val_kk (w : Int) : ((kk w).val : Int) = w % 256 := by
  unfold kk
  simp only []
  omega

theorem val_nnn (w : Int) : ((nnn w).val : Int) = w % 4096 := by
  unfold nnn
  simp only []
  omega

/-- A word of sixteen bits. -/
def InRange (w : Int) : Prop :=
  0 ≤ w ∧ w < 65536

/-- A number below a bound is told by its value as an integer. -/
theorem fin_eq {k : Nat} {i j : Fin k} (h : (i.val : Int) = j.val) : i = j :=
  Fin.ext (Int.ofNat.inj h)

/-- A mask of the first and the last digits keeps the thousands and what is below a power of
    two. -/
theorem low_and_mask (w : Int) {k : Nat} (hk : k ≤ 12) :
    low w &&& (0xF000 + (2 ^ k - 1)) = 4096 * (low w / 4096) + low w % 2 ^ k := by
  have hlow : low w < 65536 := by
    unfold low
    omega
  have hpow : 2 ^ k ≤ 2 ^ 12 := Nat.pow_le_pow_right (by omega) hk
  have hpos : 0 < 2 ^ k := Nat.two_pow_pos k
  have hfit : low w % 2 ^ k < 2 ^ k := Nat.mod_lt _ hpos
  have hhigh : (low w &&& (0xF000 + (2 ^ k - 1))) / 2 ^ 12 = low w / 2 ^ 12 := by
    rw [Nat.and_div_two_pow, show (0xF000 + (2 ^ k - 1)) / 2 ^ 12 = 2 ^ 4 - 1 by omega,
      Nat.and_two_pow_sub_one_eq_mod]
    omega
  have hrest : (low w &&& (0xF000 + (2 ^ k - 1))) % 2 ^ 12 = low w % 2 ^ k := by
    rw [Nat.and_mod_two_pow, show (0xF000 + (2 ^ k - 1)) % 2 ^ 12 = 2 ^ k - 1 by omega,
      Nat.and_two_pow_sub_one_eq_mod, Nat.mod_mod_of_dvd _ (Nat.pow_dvd_pow 2 hk)]
  omega

end Word

/-! ### What rows test -/

namespace Row

variable {b : Nat} {f : Int → Instruction} {w : Int}

/-- What a row tests, for the number of bits at the end that count. -/
theorem accepts_iff (hw : Word.InRange w) {a k : Nat} (hk : k ≤ 12)
    (ha : a = 0xF000 + (2 ^ k - 1)) :
    (⟨a, b, f⟩ : Row).accepts w = true ↔ 4096 * (w.toNat / 4096) + w.toNat % 2 ^ k = b := by
  have hlow : Word.low w = w.toNat := by
    unfold Word.InRange at hw
    unfold Word.low
    omega
  unfold accepts
  simp only []
  rw [ha, Word.low_and_mask w hk, hlow, beq_iff_eq]

/-- A row of which every digit is fixed accepts one word. -/
theorem accepts_whole (hw : Word.InRange w) :
    (⟨0xFFFF, b, f⟩ : Row).accepts w = true ↔ w = b := by
  rw [accepts_iff hw (k := 12) (by omega) (by decide)]
  unfold Word.InRange at hw
  omega

/-- A row of which the first digit is fixed accepts its base and any address. -/
theorem accepts_target (hw : Word.InRange w) (hb : b % 4096 = 0) :
    (⟨0xF000, b, f⟩ : Row).accepts w = true ↔ w = b + (Word.nnn w).val := by
  rw [accepts_iff hw (k := 0) (by omega) (by decide), Word.val_nnn]
  unfold Word.InRange at hw
  omega

/-- The same, if the address is read as a register and a byte. -/
theorem accepts_immediate (hw : Word.InRange w) (hb : b % 4096 = 0) :
    (⟨0xF000, b, f⟩ : Row).accepts w = true ↔
      w = b + 256 * (Word.x w).val + (Word.kk w).val := by
  rw [accepts_target hw hb, Word.val_nnn, Word.val_x, Word.val_kk]
  omega

/-- The same, if it is read as two registers and a length. -/
theorem accepts_sprite (hw : Word.InRange w) (hb : b % 4096 = 0) :
    (⟨0xF000, b, f⟩ : Row).accepts w = true ↔
      w = b + 256 * (Word.x w).val + 16 * (Word.y w).val + (Word.n w).val := by
  rw [accepts_target hw hb, Word.val_nnn, Word.val_x, Word.val_y, Word.val_n]
  omega

/-- A row of which the outer digits are fixed leaves two registers open. -/
theorem accepts_pair (hw : Word.InRange w) (hb : b % 4096 < 16) :
    (⟨0xF00F, b, f⟩ : Row).accepts w = true ↔
      w = b + 256 * (Word.x w).val + 16 * (Word.y w).val := by
  rw [accepts_iff hw (k := 4) (by omega) (by decide), Word.val_x, Word.val_y]
  unfold Word.InRange at hw
  omega

/-- A row that leaves the second digit open leaves one register open. -/
theorem accepts_single (hw : Word.InRange w) (hb : b % 4096 < 256) :
    (⟨0xF0FF, b, f⟩ : Row).accepts w = true ↔ w = b + 256 * (Word.x w).val := by
  rw [accepts_iff hw (k := 8) (by omega) (by decide), Word.val_x]
  unfold Word.InRange at hw
  omega

end Row

namespace Instruction

/-- Two rows contradict each other on bits that both of them test. -/
theorem rows_disjoint : rows.Pairwise fun r s => r.bits &&& s.mask ≠ s.bits &&& r.mask := by
  decide

/-- No word passes the test of two rows. -/
theorem rows_exclusive (w : Int) :
    rows.Pairwise fun r s => r.accepts w = true → s.accepts w = true → False := by
  refine rows_disjoint.imp ?_
  intro r s hne hr hs
  unfold Row.accepts at hr hs
  rw [beq_iff_eq] at hr hs
  apply hne
  rw [← hr, ← hs, Nat.and_assoc, Nat.and_assoc, Nat.and_comm r.mask]

/-- Where at most one row passes, it is the one that is found. -/
theorem find_accepting {w : Int} {r : Row} (hacc : r.accepts w = true) {l : List Row}
    (hl : l.Pairwise fun r s => r.accepts w = true → s.accepts w = true → False) (hr : r ∈ l) :
    l.find? (·.accepts w) = some r := by
  induction l with
  | nil => exact absurd hr List.not_mem_nil
  | cons s l ih =>
      rw [List.pairwise_cons] at hl
      rcases List.mem_cons.mp hr with heq | hmem
      · rw [← heq]
        exact List.find?_cons_of_pos hacc
      · have hnot : ¬ s.accepts w = true := fun hs => hl.1 r hmem hs hacc
        rw [List.find?_cons, Bool.eq_false_iff.mpr hnot]
        exact ih hl.2 hmem

/-- A row reads the words that pass its test. -/
theorem decode_of_accepts {w : Int} {r : Row} (hr : r ∈ rows) (h : r.accepts w = true) :
    decode w = r.read w := by
  unfold decode
  rw [find_accepting h (rows_exclusive w) hr]

/-! ### From the list to decoding -/

section

variable {b : Nat}

/-- The word of such a row decodes to its instruction. This and the next five turn a row
    of the table into the words that it stands for. -/
theorem decode_whole {i : Instruction} (hb : b < 65536) (hr : ⟨0xFFFF, b, fun _ => i⟩ ∈ rows) :
    decode b = i :=
  decode_of_accepts hr ((Row.accepts_whole ⟨by omega, by omega⟩).mpr rfl)

theorem decode_target {c : Target → Instruction} (hb : b < 65536 ∧ b % 4096 = 0)
    (hr : ⟨0xF000, b, fun w => c (Word.nnn w)⟩ ∈ rows) (a : Target) : decode (b + a.val) = c a := by
  have ha := a.isLt
  have hfield : Word.nnn (b + a.val) = a := Word.fin_eq (by rw [Word.val_nnn]; omega)
  have hread := decode_of_accepts hr
    ((Row.accepts_target (w := b + a.val) ⟨by omega, by omega⟩ hb.2).mpr (by rw [hfield]))
  simp only [hfield] at hread
  exact hread

theorem decode_immediate {c : Nibble → Immediate → Instruction} (hb : b < 65536 ∧ b % 4096 = 0)
    (hr : ⟨0xF000, b, fun w => c (Word.x w) (Word.kk w)⟩ ∈ rows) (x : Nibble) (kk : Immediate) :
    decode (b + 256 * x.val + kk.val) = c x kk := by
  have hx := x.isLt
  have hkk := kk.isLt
  have hfirst : Word.x (b + 256 * x.val + kk.val) = x := Word.fin_eq (by rw [Word.val_x]; omega)
  have hlast : Word.kk (b + 256 * x.val + kk.val) = kk :=
    Word.fin_eq (by rw [Word.val_kk]; omega)
  have hread := decode_of_accepts hr
    ((Row.accepts_immediate (w := b + 256 * x.val + kk.val) ⟨by omega, by omega⟩ hb.2).mpr
      (by rw [hfirst, hlast]))
  simp only [hfirst, hlast] at hread
  exact hread

theorem decode_sprite {c : Nibble → Nibble → Nibble → Instruction}
    (hb : b < 65536 ∧ b % 4096 = 0)
    (hr : ⟨0xF000, b, fun w => c (Word.x w) (Word.y w) (Word.n w)⟩ ∈ rows) (x y n : Nibble) :
    decode (b + 256 * x.val + 16 * y.val + n.val) = c x y n := by
  have hx := x.isLt
  have hy := y.isLt
  have hn := n.isLt
  have hfirst : Word.x (b + 256 * x.val + 16 * y.val + n.val) = x :=
    Word.fin_eq (by rw [Word.val_x]; omega)
  have hmiddle : Word.y (b + 256 * x.val + 16 * y.val + n.val) = y :=
    Word.fin_eq (by rw [Word.val_y]; omega)
  have hlast : Word.n (b + 256 * x.val + 16 * y.val + n.val) = n :=
    Word.fin_eq (by rw [Word.val_n]; omega)
  have hread := decode_of_accepts hr
    ((Row.accepts_sprite (w := b + 256 * x.val + 16 * y.val + n.val) ⟨by omega, by omega⟩
      hb.2).mpr (by rw [hfirst, hmiddle, hlast]))
  simp only [hfirst, hmiddle, hlast] at hread
  exact hread

theorem decode_pair {c : Nibble → Nibble → Instruction} (hb : b < 65536 ∧ b % 4096 < 16)
    (hr : ⟨0xF00F, b, fun w => c (Word.x w) (Word.y w)⟩ ∈ rows) (x y : Nibble) :
    decode (b + 256 * x.val + 16 * y.val) = c x y := by
  have hx := x.isLt
  have hy := y.isLt
  have hfirst : Word.x (b + 256 * x.val + 16 * y.val) = x :=
    Word.fin_eq (by rw [Word.val_x]; omega)
  have hmiddle : Word.y (b + 256 * x.val + 16 * y.val) = y :=
    Word.fin_eq (by rw [Word.val_y]; omega)
  have hread := decode_of_accepts hr
    ((Row.accepts_pair (w := b + 256 * x.val + 16 * y.val) ⟨by omega, by omega⟩ hb.2).mpr
      (by rw [hfirst, hmiddle]))
  simp only [hfirst, hmiddle] at hread
  exact hread

theorem decode_single {c : Nibble → Instruction} (hb : b < 65536 ∧ b % 4096 < 256)
    (hr : ⟨0xF0FF, b, fun w => c (Word.x w)⟩ ∈ rows) (x : Nibble) :
    decode (b + 256 * x.val) = c x := by
  have hx := x.isLt
  have hfirst : Word.x (b + 256 * x.val) = x := Word.fin_eq (by rw [Word.val_x]; omega)
  have hread := decode_of_accepts hr
    ((Row.accepts_single (w := b + 256 * x.val) ⟨by omega, by omega⟩ hb.2).mpr (by rw [hfirst]))
  simp only [hfirst] at hread
  exact hread

end

/-- A listed word is decoded as it is listed. -/
theorem decode_of_listed {w : Int} {i : Instruction} (h : Listed w i) : decode w = i := by
  cases h with
  | clear => exact decode_whole (b := 0x00E0) (by decide) (List.mem_of_getElem? (i := 0) rfl)
  | ret => exact decode_whole (b := 0x00EE) (by decide) (List.mem_of_getElem? (i := 1) rfl)
  | jump a => exact decode_target (by decide) (List.mem_of_getElem? (i := 2) rfl) a
  | call a => exact decode_target (by decide) (List.mem_of_getElem? (i := 3) rfl) a
  | skipIs x kk => exact decode_immediate (by decide) (List.mem_of_getElem? (i := 4) rfl) x kk
  | skipIsNot x kk => exact decode_immediate (by decide) (List.mem_of_getElem? (i := 5) rfl) x kk
  | skipSame x y => exact decode_pair (by decide) (List.mem_of_getElem? (i := 6) rfl) x y
  | set x kk => exact decode_immediate (by decide) (List.mem_of_getElem? (i := 7) rfl) x kk
  | increase x kk => exact decode_immediate (by decide) (List.mem_of_getElem? (i := 8) rfl) x kk
  | copy x y => exact decode_pair (by decide) (List.mem_of_getElem? (i := 9) rfl) x y
  | or x y => exact decode_pair (by decide) (List.mem_of_getElem? (i := 10) rfl) x y
  | and x y => exact decode_pair (by decide) (List.mem_of_getElem? (i := 11) rfl) x y
  | xor x y => exact decode_pair (by decide) (List.mem_of_getElem? (i := 12) rfl) x y
  | add x y => exact decode_pair (by decide) (List.mem_of_getElem? (i := 13) rfl) x y
  | sub x y => exact decode_pair (by decide) (List.mem_of_getElem? (i := 14) rfl) x y
  | shiftRight x y =>
      exact decode_pair (c := fun x _ => .shiftRight x) (by decide)
        (List.mem_of_getElem? (i := 15) rfl) x y
  | subReverse x y => exact decode_pair (by decide) (List.mem_of_getElem? (i := 16) rfl) x y
  | shiftLeft x y =>
      exact decode_pair (c := fun x _ => .shiftLeft x) (by decide)
        (List.mem_of_getElem? (i := 17) rfl) x y
  | skipDiffer x y => exact decode_pair (by decide) (List.mem_of_getElem? (i := 18) rfl) x y
  | setIndex a => exact decode_target (by decide) (List.mem_of_getElem? (i := 19) rfl) a
  | jumpFrom a => exact decode_target (by decide) (List.mem_of_getElem? (i := 20) rfl) a
  | random x kk => exact decode_immediate (by decide) (List.mem_of_getElem? (i := 21) rfl) x kk
  | draw x y n => exact decode_sprite (by decide) (List.mem_of_getElem? (i := 22) rfl) x y n
  | skipHeld x => exact decode_single (by decide) (List.mem_of_getElem? (i := 23) rfl) x
  | skipFree x => exact decode_single (by decide) (List.mem_of_getElem? (i := 24) rfl) x
  | getDelay x => exact decode_single (by decide) (List.mem_of_getElem? (i := 25) rfl) x
  | awaitKey x => exact decode_single (by decide) (List.mem_of_getElem? (i := 26) rfl) x
  | setDelay x => exact decode_single (by decide) (List.mem_of_getElem? (i := 27) rfl) x
  | setSound x => exact decode_single (by decide) (List.mem_of_getElem? (i := 28) rfl) x
  | addIndex x => exact decode_single (by decide) (List.mem_of_getElem? (i := 29) rfl) x
  | pointGlyph x => exact decode_single (by decide) (List.mem_of_getElem? (i := 30) rfl) x
  | decimal x => exact decode_single (by decide) (List.mem_of_getElem? (i := 31) rfl) x
  | save x => exact decode_single (by decide) (List.mem_of_getElem? (i := 32) rfl) x
  | restore x => exact decode_single (by decide) (List.mem_of_getElem? (i := 33) rfl) x

/-- A row reads the words of sixteen bits that pass its test as they are listed. -/
theorem listed_of_accepts {w : Int} (hw : Word.InRange w) :
    ∀ r ∈ rows, r.accepts w = true → Listed w (r.read w) := by
  intro r hr h
  simp only [rows, List.mem_cons, List.not_mem_nil, or_false] at hr
  rcases hr with rfl | rfl | rfl | rfl | rfl | rfl | rfl | rfl | rfl | rfl | rfl | rfl | rfl |
    rfl | rfl | rfl | rfl | rfl | rfl | rfl | rfl | rfl | rfl | rfl | rfl | rfl | rfl | rfl |
    rfl | rfl | rfl | rfl | rfl | rfl
  · exact Listed.of_eq .clear ((Row.accepts_whole hw).mp h)
  · exact Listed.of_eq .ret ((Row.accepts_whole hw).mp h)
  · exact Listed.of_eq (.jump _) ((Row.accepts_target hw (by decide)).mp h)
  · exact Listed.of_eq (.call _) ((Row.accepts_target hw (by decide)).mp h)
  · exact Listed.of_eq (.skipIs _ _) ((Row.accepts_immediate hw (by decide)).mp h)
  · exact Listed.of_eq (.skipIsNot _ _) ((Row.accepts_immediate hw (by decide)).mp h)
  · exact Listed.of_eq (.skipSame _ _) ((Row.accepts_pair hw (by decide)).mp h)
  · exact Listed.of_eq (.set _ _) ((Row.accepts_immediate hw (by decide)).mp h)
  · exact Listed.of_eq (.increase _ _) ((Row.accepts_immediate hw (by decide)).mp h)
  · exact Listed.of_eq (.copy _ _) ((Row.accepts_pair hw (by decide)).mp h)
  · exact Listed.of_eq (.or _ _) ((Row.accepts_pair hw (by decide)).mp h)
  · exact Listed.of_eq (.and _ _) ((Row.accepts_pair hw (by decide)).mp h)
  · exact Listed.of_eq (.xor _ _) ((Row.accepts_pair hw (by decide)).mp h)
  · exact Listed.of_eq (.add _ _) ((Row.accepts_pair hw (by decide)).mp h)
  · exact Listed.of_eq (.sub _ _) ((Row.accepts_pair hw (by decide)).mp h)
  · exact Listed.of_eq (.shiftRight _ _) ((Row.accepts_pair hw (by decide)).mp h)
  · exact Listed.of_eq (.subReverse _ _) ((Row.accepts_pair hw (by decide)).mp h)
  · exact Listed.of_eq (.shiftLeft _ _) ((Row.accepts_pair hw (by decide)).mp h)
  · exact Listed.of_eq (.skipDiffer _ _) ((Row.accepts_pair hw (by decide)).mp h)
  · exact Listed.of_eq (.setIndex _) ((Row.accepts_target hw (by decide)).mp h)
  · exact Listed.of_eq (.jumpFrom _) ((Row.accepts_target hw (by decide)).mp h)
  · exact Listed.of_eq (.random _ _) ((Row.accepts_immediate hw (by decide)).mp h)
  · exact Listed.of_eq (.draw _ _ _) ((Row.accepts_sprite hw (by decide)).mp h)
  · exact Listed.of_eq (.skipHeld _) ((Row.accepts_single hw (by decide)).mp h)
  · exact Listed.of_eq (.skipFree _) ((Row.accepts_single hw (by decide)).mp h)
  · exact Listed.of_eq (.getDelay _) ((Row.accepts_single hw (by decide)).mp h)
  · exact Listed.of_eq (.awaitKey _) ((Row.accepts_single hw (by decide)).mp h)
  · exact Listed.of_eq (.setDelay _) ((Row.accepts_single hw (by decide)).mp h)
  · exact Listed.of_eq (.setSound _) ((Row.accepts_single hw (by decide)).mp h)
  · exact Listed.of_eq (.addIndex _) ((Row.accepts_single hw (by decide)).mp h)
  · exact Listed.of_eq (.pointGlyph _) ((Row.accepts_single hw (by decide)).mp h)
  · exact Listed.of_eq (.decimal _) ((Row.accepts_single hw (by decide)).mp h)
  · exact Listed.of_eq (.save _) ((Row.accepts_single hw (by decide)).mp h)
  · exact Listed.of_eq (.restore _) ((Row.accepts_single hw (by decide)).mp h)

/-- What is decoded is listed, unless it is no instruction. -/
theorem listed_decode {w : Int} (hw : Word.InRange w) :
    decode w = .unknown w ∨ Listed w (decode w) := by
  unfold decode
  cases hfind : rows.find? (·.accepts w) with
  | none => exact Or.inl rfl
  | some r =>
      have hacc := List.find?_some hfind
      exact Or.inr (listed_of_accepts hw r (List.mem_of_find?_eq_some hfind) hacc)

/-- Decoding and the list agree on the words of sixteen bits. -/
theorem listed_iff {w : Int} (hw : Word.InRange w) (i : Instruction) :
    Listed w i ↔ decode w = i ∧ i ≠ .unknown w := by
  constructor
  · intro h
    refine ⟨decode_of_listed h, ?_⟩
    intro hunknown
    rw [hunknown] at h
    cases h
  · rintro ⟨hdecode, hne⟩
    rcases listed_decode hw with hunknown | hlisted
    · exact absurd (hdecode.symm.trans hunknown) hne
    · rw [hdecode] at hlisted
      exact hlisted

end Instruction

end Chip8
