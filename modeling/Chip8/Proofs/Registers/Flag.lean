import Chip8.Proofs.Registers

/-!
# Results with a Flag

What the operations leave that tell a carry, a borrow or a bit shifted out, for all ways in
which the registers they name can coincide.

Both operands are read before anything is written, so that it makes no difference whether they
are the same register, or the one that the flag goes to. The flag is written last. It is
therefore what is left in VF, and the only result that is lost is one that was meant for VF
itself.

As numbers, a result and its flag say all there is to say: with the flag as a ninth bit a sum
and a double are exact, and with the flag as the bit that is left over a half is. As bytes the
results are those of an arithmetic without carries, and the flags of the shifts are the bits at
either end.

## Main definitions

* `Registers.Stores`: A result and its flag in their registers, and nothing else changed.

## Theorems

* `Flagged.add_exact`, `Flagged.sub_exact`, `Flagged.shiftRight_exact`,
  `Flagged.shiftLeft_exact`: Results and flags, as numbers and as bytes.
* `Registers.stores_of_store`: What storing a result comes to.
* `Registers.flags_are_exact`: The operations.
-/

namespace Chip8

namespace Flagged

/-- A flag tells whether its statement holds. -/
theorem bit_eq_one_iff (p : Prop) [Decidable p] : bit p = 1 ↔ p := by
  unfold bit
  by_cases h : p
  · rw [if_pos h]
    exact iff_of_true rfl h
  · rw [if_neg h]
    exact iff_of_false (by decide) h

theorem bit_eq_or (p : Prop) [Decidable p] : bit p = 0 ∨ bit p = 1 := by
  unfold bit
  by_cases h : p
  · rw [if_pos h]
    exact Or.inr rfl
  · rw [if_neg h]
    exact Or.inl rfl

/-- A sum is exact with its carry as a ninth bit. -/
theorem add_exact (a b : UInt8) :
    let res := add (Bytes.toInt a) (Bytes.toInt b)
    256 * res.flag + res.value = Bytes.toInt a + Bytes.toInt b ∧
      res.value = Bytes.toInt (a + b) := by
  have ha := a.toNat_lt
  have hb := b.toNat_lt
  unfold add bit Bytes.toInt
  rw [UInt8.toNat_add]
  simp only []
  refine ⟨?_, by omega⟩
  -- Two bytes make less than twice 256, so that there is nothing to carry but a one.
  by_cases h : (255 : Int) < a.toNat + b.toNat
  · rw [if_pos h]
    omega
  · rw [if_neg h]
    omega

/-- A difference is taken round the end if there is a borrow. -/
theorem sub_exact (a b : UInt8) :
    (sub (Bytes.toInt a) (Bytes.toInt b)).value = Bytes.toInt (a - b) := by
  have ha := a.toNat_lt
  have hb := b.toNat_lt
  unfold sub Bytes.toInt
  rw [UInt8.toNat_sub]
  simp only []
  omega

/-- A half is exact with what is left over. -/
theorem shiftRight_exact (a : UInt8) :
    let res := shiftRight (Bytes.toInt a)
    2 * res.value + res.flag = Bytes.toInt a ∧
      res = ⟨Bytes.toInt (a >>> 1), Bytes.toInt (a &&& 1)⟩ := by
  have hhalf : (a >>> 1).toNat = a.toNat / 2 := by
    rw [UInt8.toNat_shiftRight]
    exact Nat.shiftRight_eq_div_pow _ 1
  have hlast : (a &&& 1).toNat = a.toNat % 2 := by
    rw [UInt8.toNat_and]
    exact Nat.and_one_is_mod _
  unfold shiftRight Bytes.toInt
  rw [hhalf, hlast]
  exact ⟨Int.mul_ediv_add_emod _ 2, rfl⟩

/-- A double is exact with the bit that falls out as a ninth. -/
theorem shiftLeft_exact (a : UInt8) :
    let res := shiftLeft (Bytes.toInt a)
    256 * res.flag + res.value = 2 * Bytes.toInt a ∧
      res = ⟨Bytes.toInt (a <<< 1), Bytes.toInt (a >>> 7)⟩ := by
  have ha := a.toNat_lt
  have hdouble : (a <<< 1).toNat = 2 * a.toNat % 256 := by
    rw [UInt8.toNat_shiftLeft, Nat.mul_comm]
    exact congrArg (· % 256) (Nat.shiftLeft_eq _ 1)
  have hfirst : (a >>> 7).toNat = a.toNat / 128 := by
    rw [UInt8.toNat_shiftRight]
    exact Nat.shiftRight_eq_div_pow _ 7
  unfold shiftLeft Bytes.toInt
  rw [hdouble, hfirst]
  simp only [Flagged.mk.injEq]
  omega

end Flagged

namespace Registers

/-- The registers once a result and its flag have been stored: the flag is in VF, the result in
    its register unless this is VF as well, and the others hold what they held. -/
structure Stores (r : Registers) (a : Nibble) (res : Flagged) (r' : Registers) : Prop where
  isByte : Bytes.IsByte res.value
  isBit : res.flag = 0 ∨ res.flag = 1
  flag : r'.value VF = res.flag
  value : a ≠ VF → r'.value a = res.value
  others : ∀ c, c ≠ a → c ≠ VF → r'.value c = r.value c

/-- An operation that stores a byte with a flag is never refused, and leaves them where they
    belong. -/
theorem stores_of_store {op : Action Registers Flagged} {r : Registers} {a : Nibble}
    {res : Flagged} (hop : op r = store a.val res r) (hvalue : Bytes.IsByte res.value)
    (hflag : res.flag = 0 ∨ res.flag = 1) : ∃ r', op r = .ok res r' ∧ r.Stores a res r' := by
  have hbyte : Bytes.IsByte res.flag := by
    unfold Bytes.IsByte
    omega
  rw [store_ok (isIndex_nibble a) hvalue hbyte, Int.toNat_natCast] at hop
  -- Two writes, of which the one to VF comes last.
  have hput : ∀ c : Nibble,
      ((r.put a.val (Bytes.ofInt res.value)).put VF.val (Bytes.ofInt res.flag)).value c =
        if VF = c then res.flag else if a = c then res.value else r.value c := by
    intro c
    rw [value_put _ VF c hbyte, value_put _ a c hvalue]
  refine ⟨_, hop, hvalue, hflag, ?_, fun ha => ?_, fun c hca hcf => ?_⟩
  · exact (hput VF).trans (if_pos rfl)
  · exact (hput a).trans ((if_neg ha.symm).trans (if_pos rfl))
  · exact (hput c).trans ((if_neg hcf.symm).trans (if_neg hca.symm))

/-- Whatever the registers hold and whichever two of them are named, the same one twice and VF
    included, the operations with a flag are done and tell the truth. Result and flag make up
    the sum, the double and the number that was halved; a difference is taken modulo 256, with
    the flag for whether the first number was the greater. VF is left with the flag, the
    register named first with the result unless it is VF, and the others are left alone. -/
theorem flags_are_exact (r : Registers) (a b : Nibble) :
    (∃ res r', add a.val b.val r = .ok res r' ∧ r.Stores a res r' ∧
      256 * res.flag + res.value = r.value a + r.value b ∧
      res.value = Bytes.toInt (r.cell a.val + r.cell b.val)) ∧
    (∃ res r', sub a.val b.val r = .ok res r' ∧ r.Stores a res r' ∧
      res.value = (r.value a - r.value b) % 256 ∧ (res.flag = 1 ↔ r.value b < r.value a) ∧
      res.value = Bytes.toInt (r.cell a.val - r.cell b.val)) ∧
    (∃ res r', subReverse a.val b.val r = .ok res r' ∧ r.Stores a res r' ∧
      res.value = (r.value b - r.value a) % 256 ∧ (res.flag = 1 ↔ r.value a < r.value b) ∧
      res.value = Bytes.toInt (r.cell b.val - r.cell a.val)) ∧
    (∃ res r', shiftRight a.val r = .ok res r' ∧ r.Stores a res r' ∧
      2 * res.value + res.flag = r.value a ∧
      res = ⟨Bytes.toInt (r.cell a.val >>> 1), Bytes.toInt (r.cell a.val &&& 1)⟩) ∧
    ∃ res r', shiftLeft a.val r = .ok res r' ∧ r.Stores a res r' ∧
      256 * res.flag + res.value = 2 * r.value a ∧
      res = ⟨Bytes.toInt (r.cell a.val <<< 1), Bytes.toInt (r.cell a.val >>> 7)⟩ := by
  have ha := isIndex_nibble a
  have hb := isIndex_nibble b
  have hbyte := Bytes.isByte_toInt (r.cell a.val)
  refine ⟨?_, ?_, ?_, ?_, ?_⟩
  · rcases stores_of_store (add_eq ha hb r) (Bytes.isByte_mod _) (Flagged.bit_eq_or _) with
      ⟨r', hok, hr'⟩
    exact ⟨_, r', hok, hr', Flagged.add_exact _ _⟩
  · rcases stores_of_store (sub_eq ha hb r) (Bytes.isByte_mod _) (Flagged.bit_eq_or _) with
      ⟨r', hok, hr'⟩
    exact ⟨_, r', hok, hr', rfl, Flagged.bit_eq_one_iff _, Flagged.sub_exact _ _⟩
  · rcases stores_of_store (subReverse_eq ha hb r) (Bytes.isByte_mod _) (Flagged.bit_eq_or _) with
      ⟨r', hok, hr'⟩
    exact ⟨_, r', hok, hr', rfl, Flagged.bit_eq_one_iff _, Flagged.sub_exact _ _⟩
  · have hflag : (Flagged.shiftRight (Bytes.toInt (r.cell a.val))).flag = 0 ∨
        (Flagged.shiftRight (Bytes.toInt (r.cell a.val))).flag = 1 := Int.emod_two_eq _
    rcases stores_of_store (shiftRight_eq ha r) (Flagged.isByte_shiftRight hbyte).1 hflag with
      ⟨r', hok, hr'⟩
    exact ⟨_, r', hok, hr', Flagged.shiftRight_exact _⟩
  · have hflag : (Flagged.shiftLeft (Bytes.toInt (r.cell a.val))).flag = 0 ∨
        (Flagged.shiftLeft (Bytes.toInt (r.cell a.val))).flag = 1 := Int.emod_two_eq _
    rcases stores_of_store (shiftLeft_eq ha r) (Flagged.isByte_shiftLeft _).1 hflag with
      ⟨r', hok, hr'⟩
    exact ⟨_, r', hok, hr', Flagged.shiftLeft_exact _⟩

end Registers

end Chip8
