import Chip8.Instruction
import Chip8.Proofs.Action
import Chip8.Registers

/-!
# The Register File

Each operation on the registers as an equation, and what a register holds
after a write. An operation is refused for an index that is no register's or
for a value that is no byte, and for nothing else; the digit of an instruction
is always the index of a register, so an instruction meets the second cause
alone.

## Main definitions

* `Registers.V0`, `Registers.VF`: The registers that instructions use without
  naming them.
* `Registers.value`: What a register holds, as a number.
* `Registers.upTo`: The values of the first registers.

## Theorems

* `Flagged.isByte_add` and its kin: Results and flags are bytes.
* `Registers.isIndex_nibble`: A digit names a register.
* `Registers.cell_put`, `Registers.value_put`, `Registers.cell_fill`: What a
  register holds after a write.
* `Registers.read_ok`, `Registers.write_ok`, `Registers.store_ok`: The
  accesses to one register.
* `Registers.or_ok`, `Registers.add_eq` and their kin: The operations on two
  registers.
* `Registers.dump_ok`, `Registers.load_ok`: The accesses to a block.
-/

namespace Chip8

namespace Bytes

/-- A byte is not changed on its way through the integers. -/
theorem ofInt_toInt (b : UInt8) : ofInt (toInt b) = b := by
  unfold ofInt toInt
  rw [Int.toNat_natCast, UInt8.ofNat_toNat]

/-- A remainder is a byte. -/
theorem isByte_mod (v : Int) : IsByte (v % 256) := by
  unfold IsByte
  omega

/-- A flag is one, as it is zero or one. -/
theorem isByte_bit (p : Prop) [Decidable p] : IsByte (Flagged.bit p) := by
  unfold Flagged.bit IsByte
  by_cases h : p
  · rw [if_pos h]
    omega
  · rw [if_neg h]
    omega

/-- So is what an instruction carries. -/
theorem isByte_immediate (kk : Immediate) : IsByte (kk.val : Int) := by
  have := kk.isLt
  unfold IsByte
  omega

theorem isByte_nibble (k : Nibble) : IsByte (k.val : Int) := by
  have := k.isLt
  unfold IsByte
  omega

end Bytes

namespace Flagged

/-- A sum is reduced to a byte, and comes with a flag. -/
theorem isByte_add (a b : Int) : Bytes.IsByte (add a b).value ∧ Bytes.IsByte (add a b).flag :=
  ⟨Bytes.isByte_mod _, Bytes.isByte_bit _⟩

/-- So is a difference, whichever is the greater. -/
theorem isByte_sub (a b : Int) : Bytes.IsByte (sub a b).value ∧ Bytes.IsByte (sub a b).flag :=
  ⟨Bytes.isByte_mod _, Bytes.isByte_bit _⟩

theorem isByte_shiftRight {a : Int} (h : Bytes.IsByte a) :
    Bytes.IsByte (shiftRight a).value ∧ Bytes.IsByte (shiftRight a).flag := by
  unfold Bytes.IsByte shiftRight at *
  simp only []
  omega

theorem isByte_shiftLeft (a : Int) :
    Bytes.IsByte (shiftLeft a).value ∧ Bytes.IsByte (shiftLeft a).flag := by
  unfold Bytes.IsByte shiftLeft
  simp only []
  omega

end Flagged

namespace Registers

theorem zero_lt_count : 0 < 16 := by decide

theorem last_lt_count : 15 < 16 := by decide

/-- The register that a jump is relative to. -/
def V0 : Nibble :=
  ⟨0, zero_lt_count⟩

/-- The register of flags. -/
def VF : Nibble :=
  ⟨15, last_lt_count⟩

/-- Whatever register an instruction names, it is there. -/
theorem isIndex_nibble (x : Nibble) : IsIndex (x.val : Int) := by
  have := x.isLt
  unfold IsIndex
  omega

theorem isIndex_flag : IsIndex flagIndex := by
  unfold IsIndex flagIndex
  omega

/-- To put a byte in a register changes this one only. -/
theorem cell_put (r : Registers) {i : Nat} (h : i < 16) (j : Nat) (b : UInt8) :
    (r.put i b).cell j = if i = j then b else r.cell j := by
  unfold put cell
  rw [Vector.getElem?_setIfInBounds]
  by_cases hij : i = j
  · rw [if_pos hij, if_pos h, if_pos hij]
    rfl
  · rw [if_neg hij, if_neg hij]

/-- Bytes fill the first registers, and the others stay. -/
theorem cell_fill (r : Registers) (bytes : List UInt8) {j : Nat} (h : j < 16) :
    (r.fill bytes).cell j = bytes.getD j (r.cell j) := by
  unfold fill cell
  rw [Vector.getElem?_ofFn, dif_pos h, Vector.getElem?_eq_getElem h]
  rfl

/-- What a register holds, as a number. -/
def value (r : Registers) (x : Nibble) : Int :=
  Bytes.toInt (r.cell x.val)

/-- The same as `cell_put` for the integers that registers hold. -/
theorem value_put (r : Registers) (x y : Nibble) {v : Int} (hv : Bytes.IsByte v) :
    (r.put x.val (Bytes.ofInt v)).value y = if x = y then v else r.value y := by
  unfold value
  rw [cell_put r x.isLt]
  by_cases h : x = y
  · rw [if_pos (congrArg Fin.val h), if_pos h, Bytes.toInt_ofInt hv]
  · rw [if_neg (fun hval => h (Fin.ext hval)), if_neg h]

/-! ### One register -/

/-- A register that there is can be read. -/
theorem read_ok {i : Int} (h : IsIndex i) (r : Registers) :
    read i r = .ok (r.cell i.toNat) r := by
  unfold read check
  rw [Action.run_bind, Action.run_check_pos h]
  rfl

/-- Another one cannot, and nothing changes. -/
theorem read_error {i : Int} (h : ¬ IsIndex i) (r : Registers) :
    read i r = .error (.registerIndex i) r := by
  unfold read check
  rw [Action.run_bind, Action.run_check_neg h]

/-- A byte is written to a register that there is. -/
theorem write_ok {i v : Int} (h : IsIndex i) (hv : Bytes.IsByte v) (r : Registers) :
    write i v r = .ok () (r.put i.toNat (Bytes.ofInt v)) := by
  unfold write check
  rw [Action.run_bind, Action.run_check_pos h]
  simp only []
  rw [Action.run_bind, Action.run_check_pos hv]
  rfl

/-- The index is looked at first. -/
theorem write_error {i : Int} (h : ¬ IsIndex i) (v : Int) (r : Registers) :
    write i v r = .error (.registerIndex i) r := by
  unfold write check
  rw [Action.run_bind, Action.run_check_neg h]

/-- Then the value is, which has to be a byte. -/
theorem write_misuse {i v : Int} (h : IsIndex i) (hv : ¬ Bytes.IsByte v) (r : Registers) :
    write i v r = .error (.misuse (.register v)) r := by
  unfold write check
  rw [Action.run_bind, Action.run_check_pos h]
  simp only []
  rw [Action.run_bind, Action.run_check_neg hv]

/-- The value is written before the flag, so that the flag stays if both go to one register. -/
theorem store_ok {i : Int} {res : Flagged} (h : IsIndex i) (hv : Bytes.IsByte res.value)
    (hf : Bytes.IsByte res.flag) (r : Registers) :
    store i res r =
      .ok res ((r.put i.toNat (Bytes.ofInt res.value)).put 15 (Bytes.ofInt res.flag)) := by
  unfold store
  rw [Action.run_bind, write_ok h hv]
  simp only []
  rw [Action.run_bind, write_ok isIndex_flag hf]
  rfl

/-! ### Two registers -/

/-- The three bitwise operations read two registers and write none. -/
theorem or_ok {a b : Int} (ha : IsIndex a) (hb : IsIndex b) (r : Registers) :
    or a b r = .ok (r.cell a.toNat ||| r.cell b.toNat) r := by
  unfold Registers.or
  rw [Action.run_bind, read_ok ha]
  simp only []
  rw [Action.run_bind, read_ok hb]
  rfl

theorem and_ok {a b : Int} (ha : IsIndex a) (hb : IsIndex b) (r : Registers) :
    and a b r = .ok (r.cell a.toNat &&& r.cell b.toNat) r := by
  unfold Registers.and
  rw [Action.run_bind, read_ok ha]
  simp only []
  rw [Action.run_bind, read_ok hb]
  rfl

theorem xor_ok {a b : Int} (ha : IsIndex a) (hb : IsIndex b) (r : Registers) :
    xor a b r = .ok (r.cell a.toNat ^^^ r.cell b.toNat) r := by
  unfold Registers.xor
  rw [Action.run_bind, read_ok ha]
  simp only []
  rw [Action.run_bind, read_ok hb]
  rfl

/-- An operation with a flag reads its registers and stores the result in the first. -/
theorem add_eq {a b : Int} (ha : IsIndex a) (hb : IsIndex b) (r : Registers) :
    add a b r =
      store a (.add (Bytes.toInt (r.cell a.toNat)) (Bytes.toInt (r.cell b.toNat))) r := by
  unfold Registers.add
  rw [Action.run_bind, read_ok ha]
  simp only []
  rw [Action.run_bind, read_ok hb]

theorem sub_eq {a b : Int} (ha : IsIndex a) (hb : IsIndex b) (r : Registers) :
    sub a b r =
      store a (.sub (Bytes.toInt (r.cell a.toNat)) (Bytes.toInt (r.cell b.toNat))) r := by
  unfold Registers.sub
  rw [Action.run_bind, read_ok ha]
  simp only []
  rw [Action.run_bind, read_ok hb]

/-- Here the registers change places, and the result still goes to the first. -/
theorem subReverse_eq {a b : Int} (ha : IsIndex a) (hb : IsIndex b) (r : Registers) :
    subReverse a b r =
      store a (.sub (Bytes.toInt (r.cell b.toNat)) (Bytes.toInt (r.cell a.toNat))) r := by
  unfold Registers.subReverse
  rw [Action.run_bind, read_ok hb]
  simp only []
  rw [Action.run_bind, read_ok ha]

/-- A shift reads the register that it stores in. -/
theorem shiftRight_eq {i : Int} (h : IsIndex i) (r : Registers) :
    shiftRight i r = store i (.shiftRight (Bytes.toInt (r.cell i.toNat))) r := by
  unfold Registers.shiftRight
  rw [Action.run_bind, read_ok h]

theorem shiftLeft_eq {i : Int} (h : IsIndex i) (r : Registers) :
    shiftLeft i r = store i (.shiftLeft (Bytes.toInt (r.cell i.toNat))) r := by
  unfold Registers.shiftLeft
  rw [Action.run_bind, read_ok h]

/-! ### Blocks -/

/-- The values of V0 to the given register. -/
def upTo (r : Registers) (last : Nat) : List UInt8 :=
  (List.range (last + 1)).map r.cell

theorem length_upTo (r : Registers) (last : Nat) : (r.upTo last).length = last + 1 := by
  simp only [upTo, List.length_map, List.length_range]

/-- The registers are read from the first one on. -/
theorem dump_ok {last : Int} (h : IsIndex last) (r : Registers) :
    dump last r = .ok (r.upTo last.toNat) r := by
  have hlist : (r.cells.toArray.extract 0 (last.toNat + 1)).toList = r.upTo last.toNat := by
    have hsize : last.toNat + 1 ≤ 16 := by
      unfold IsIndex at h
      omega
    apply List.ext_getElem
    · rw [length_upTo, Array.length_toList, Array.size_extract, Vector.size_toArray]
      omega
    · intro j h1 h2
      rw [length_upTo] at h2
      simp only [upTo, List.getElem_map, List.getElem_range, Array.getElem_toList,
        Array.getElem_extract, cell]
      rw [Vector.getElem?_eq_getElem (by omega)]
      simp only [Nat.zero_add, Option.getD_some, Vector.getElem_toArray]
  unfold dump check
  rw [Action.run_bind, Action.run_check_pos h]
  simp only []
  rw [Action.run_bind, Action.run_get]
  simp only []
  rw [Action.run_pure, hlist]

/-- They are filled if there is a byte for each of them. -/
theorem load_ok {last : Int} {data : List Int} (h : IsIndex last)
    (hd : ∀ v ∈ data, Bytes.IsByte v) (hl : data.length = last.toNat + 1) (r : Registers) :
    load last data r = .ok () (r.fill (data.map Bytes.ofInt)) := by
  unfold load check
  rw [Action.run_bind, Action.run_check_pos h]
  simp only []
  rw [Action.run_bind, Action.run_lift_ofInts hd]
  simp only []
  rw [Action.run_bind, Action.run_check_pos (by rw [List.length_map, hl])]
  rfl

end Registers

end Chip8
