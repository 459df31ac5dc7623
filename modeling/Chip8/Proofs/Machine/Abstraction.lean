import Chip8.Proofs.Ideal
import Chip8.Proofs.Machine.Bounds
import Chip8.Proofs.Screen

/-!
# Machines as Ideal Machines

What is left of a machine when it is seen as a state of the ideal one: the
contents of its containers without the way in which they are kept, and how far
it has come in a sequence of random numbers.

Each change that an effect can make to a machine is a change of the state that
it is seen as. The lemmas here say so for one kind of change each. A register
is the one place where numbers are cut to size on both sides, before it is
written in the machine and by writing it in the ideal one, so a register may be
said to be given the uncut number.

## Main definitions

* `Machine.ideal`: The state that a machine is seen as.
* `Source.number`: The numbers of a source one by one.

## Theorems

* `Machine.ideal_word`: Both fetch the same word.
* `Machine.ideal_assign`, `Machine.ideal_assignFlagged`: A register is
  written.
* `Machine.ideal_laid`: A block of memory is written.
* `Machine.ideal_restore`: A block of memory is read.
* `Machine.ideal_sprite`: Both draw the same pixels.
-/

namespace Chip8

/-- The numbers of a source one by one. -/
def Source.number {ρ : Type} [Source ρ] (s : ρ) (n : Nat) : Int :=
  (Source.next (Source.after n s)).1

theorem Source.after_succ {ρ : Type} [Source ρ] (n : Nat) (s : ρ) :
    Source.after (n + 1) s = (Source.next (Source.after n s)).2 := by
  induction n generalizing s with
  | zero => rfl
  | succ n ih => exact ih (Source.next s).2

namespace Ideal

/-- A byte as a number. -/
def ofByte (b : UInt8) : Fin 256 :=
  ⟨b.toNat, b.toNat_lt⟩

/-- An integer that is a byte is the same byte in both readings. -/
theorem ofByte_ofInt {v : Int} (h : Bytes.IsByte v) : ofByte (Bytes.ofInt v) = byte v := by
  have hval := Bytes.toInt_ofInt h
  unfold Bytes.toInt at hval
  unfold Bytes.IsByte at h
  apply Fin.ext
  change (Bytes.ofInt v).toNat = (v % 256).toNat
  omega

theorem byte_ofByte (b : UInt8) : byte (Bytes.toInt b) = ofByte b := by
  rw [← ofByte_ofInt (Bytes.isByte_toInt b), Bytes.ofInt_toInt]

/-- Bytes are integers modulo 256, so that the machine may reduce a value before it is
    stored. -/
theorem byte_mod (v : Int) : byte (v % 256) = byte v := by
  unfold byte
  apply Fin.ext
  simp only []
  omega

theorem put_mod (s : Ideal) (x : Nibble) (v : Int) : s.put x (v % 256) = s.put x v := by
  unfold put
  rw [byte_mod]

theorem address_natCast {k : Nat} (h : k < 4096) : (address k).val = k := by
  unfold address
  simp only []
  omega

end Ideal

namespace Machine

variable {ρ : Type}

/-- The state that a machine is seen as, with the number of random numbers that
    it has used. -/
def ideal (m : Machine ρ) (n : Nat) : Ideal where
  memory k := Ideal.ofByte (m.memory.cell k.val)
  pc := m.pc
  index := m.index
  registers x := Ideal.ofByte (m.registers.cell x.val)
  stack := m.stack.live.reverse
  stack_le := by
    rw [List.length_reverse, CallStack.length_live]
    exact m.stack.depth_le
  screen := m.screen.litSet
  keys := Finset.univ.filter fun k => m.keypad.isHeld k = true
  delay := m.delay
  sound := m.sound
  draws := n
  ticksByCycle := m.ticksByCycle

theorem ideal_memory (m : Machine ρ) (n : Nat) {k : Nat} (h : k < 4096) :
    (m.ideal n).memory (Ideal.address k) = Ideal.ofByte (m.memory.cell k) := by
  change Ideal.ofByte (m.memory.cell (Ideal.address k).val) = _
  rw [Ideal.address_natCast h]

theorem ideal_word {m : Machine ρ} (h : m.CanFetch) (n : Nat) : (m.ideal n).word = m.word := by
  unfold CanFetch at h
  have hhigh : m.pc = (m.pc.toNat : Int) := by omega
  have hlow : m.pc + 1 = ((m.pc + 1).toNat : Int) := by omega
  have hread : ∀ k < 4096, ((m.ideal n).memory (Ideal.address (k : Nat))).val =
      Bytes.toInt (m.memory.cell k) := by
    intro k hk
    rw [ideal_memory m n hk]
    rfl
  unfold Ideal.word word
  change 256 * (((m.ideal n).memory (Ideal.address m.pc)).val : Int) +
    ((m.ideal n).memory (Ideal.address (m.pc + 1))).val = _
  rw [← hread _ (by omega), ← hread _ (by omega), ← hhigh, ← hlow]

/-- The keys in the set are those that are held. -/
theorem mem_ideal_keys (m : Machine ρ) (n : Nat) (k : Nibble) :
    k ∈ (m.ideal n).keys ↔ m.keypad.isHeld k = true := by
  change k ∈ Finset.univ.filter (fun k => m.keypad.isHeld k = true) ↔ _
  rw [Finset.mem_filter]
  exact ⟨fun h => h.2, fun h => ⟨Finset.mem_univ k, h⟩⟩

/-! ### Registers -/

/-- To assign a register is to put a value in it. -/
theorem ideal_assign {m : Machine ρ} {v : Int} (hv : Bytes.IsByte v) (n : Nat) (x : Nibble) :
    (m.assign x v).ideal n = (m.ideal n).put x v := by
  have hregisters : ((m.assign x v).ideal n).registers =
      Function.update (m.ideal n).registers x (Ideal.byte v) := by
    funext y
    change Ideal.ofByte ((m.registers.put x.val (Bytes.ofInt v)).cell y.val) = _
    rw [Registers.cell_put m.registers x.isLt]
    by_cases h : x = y
    · rw [if_pos (congrArg Fin.val h), h, Function.update_self, Ideal.ofByte_ofInt hv]
    · rw [if_neg (fun hval => h (Fin.ext hval)), Function.update_of_ne (Ne.symm h)]
      rfl
  unfold Ideal.put
  rw [← hregisters]
  rfl

/-- The same for a value with a flag, where the flag is the truth of a statement. -/
theorem ideal_assignFlagged {m : Machine ρ} {res : Flagged} {v : Int} {p : Prop} [Decidable p]
    (hvalue : res.value = v % 256) (hflag : res.flag = Flagged.bit p) (n : Nat) (x : Nibble) :
    (m.assignFlagged x res).ideal n = ((m.ideal n).put x v).flag p := by
  unfold assignFlagged Ideal.flag
  rw [hvalue, hflag, ideal_assign (Bytes.isByte_bit p), ideal_assign (Bytes.isByte_mod v),
    Ideal.put_mod]
  rfl

/-- To skip a word is the same on both sides, once the conditions are. -/
theorem ideal_skipWhen (m : Machine ρ) (n : Nat) {p q : Prop} [Decidable p] [Decidable q]
    (h : q ↔ p) : (m.ideal n).skipIf q = (m.skipWhen p).ideal n := by
  unfold skipWhen Ideal.skipIf
  by_cases hp : p
  · rw [if_pos hp, if_pos (h.mpr hp)]
    rfl
  · rw [if_neg hp, if_neg (fun hq => hp (h.mp hq))]

/-! ### Memory -/

/-- A block of cells that fits, as it is tested before it is read or written. -/
theorem hasBlock_of_obstacle {m : Machine ρ} {k : Nat} {past : Fault}
    (h : m.blockObstacle k past = none) (n : Nat) : (m.ideal n).HasBlock k := by
  rcases (blockObstacle_eq_none_iff m k past).mp h with ⟨hs, he⟩
  exact ⟨hs.1, hs.2, he⟩

/-- The cells of a block that fits. -/
theorem ideal_block {m : Machine ρ} {k n : Nat} (h : (m.ideal n).HasBlock k) {j : Nat}
    (hj : j < k) :
    (m.ideal n).memory (Ideal.address (m.index + j)) =
      Ideal.ofByte (m.memory.cell (m.index.toNat + j)) := by
  rcases h with ⟨hlow, -, hhigh⟩
  change 0 ≤ m.index at hlow
  change m.index + k ≤ 4096 at hhigh
  rw [show m.index + j = ((m.index.toNat + j : Nat) : Int) by omega]
  exact ideal_memory m n (by omega)

/-- A row of bytes that fits is stored cell by cell. -/
theorem ideal_laid {m : Machine ρ} (bytes : List UInt8) {f : Nat → Int} {n : Nat}
    (h : (m.ideal n).HasBlock bytes.length)
    (hf : ∀ j < bytes.length, Ideal.byte (f j) = Ideal.ofByte (bytes.getD j 0)) :
    (m.ideal n).store bytes.length f = some ((m.laid bytes).ideal n) := by
  have hmemory : (fun k : Fin 4096 =>
      if (m.ideal n).index ≤ k.val ∧ k.val < (m.ideal n).index + bytes.length then
        Ideal.byte (f (k.val - (m.ideal n).index).toNat)
      else (m.ideal n).memory k) = ((m.laid bytes).ideal n).memory := by
    have hlow : 0 ≤ m.index := h.1
    funext k
    change (if m.index ≤ k.val ∧ k.val < m.index + bytes.length then
        Ideal.byte (f (k.val - m.index).toNat)
      else (m.ideal n).memory k) =
        Ideal.ofByte ((m.memory.place m.index.toNat bytes).cell k.val)
    rw [Memory.cell_place _ _ _ k.isLt]
    by_cases hin : m.index ≤ k.val ∧ k.val < m.index + bytes.length
    · rw [if_pos hin, if_pos (by omega), hf _ (by omega),
        show (k.val - m.index).toNat = k.val - m.index.toNat by omega]
    · rw [if_neg hin, if_neg (by omega)]
      rfl
  unfold Ideal.store
  rw [if_pos h, hmemory]
  rfl

/-- A row of registers is loaded register by register. -/
theorem ideal_restore {m : Machine ρ} {x : Nibble} {n : Nat}
    (h : (m.ideal n).HasBlock (x.val + 1)) :
    { m.ideal n with
      registers := fun r =>
        if r ≤ x then (m.ideal n).memory (Ideal.address (m.index + r.val))
        else (m.ideal n).registers r } =
      ideal { m with
        registers := m.registers.fill (m.memory.slice m.index.toNat (x.val + 1)) } n := by
  have hregisters : (fun r : Nibble =>
      if r ≤ x then (m.ideal n).memory (Ideal.address (m.index + r.val))
      else (m.ideal n).registers r) = fun r : Nibble => Ideal.ofByte
        ((m.registers.fill (m.memory.slice m.index.toNat (x.val + 1))).cell r.val) := by
    funext r
    rw [Registers.cell_fill _ _ r.isLt]
    by_cases hr : r ≤ x
    · have hlt : r.val < x.val + 1 := Nat.lt_succ_of_le hr
      have hslice : r.val < (m.memory.slice m.index.toNat (x.val + 1)).length := by
        rw [Memory.length_slice]
        exact hlt
      rw [if_pos hr, ideal_block h hlt, List.getD_eq_getElem _ _ hslice]
      simp only [Memory.slice, List.getElem_map, List.getElem_range]
    · have hge : x.val + 1 ≤ r.val := Nat.lt_of_not_le hr
      rw [if_neg hr, List.getD_eq_default _ _ (by rw [Memory.length_slice]; exact hge)]
      rfl
  rw [hregisters]
  rfl

/-! ### Sprites -/

/-- Bits are counted from the left in a sprite, and from the right in a number. -/
theorem bitSet_toInt (b : UInt8) (j : Nat) :
    Screen.bitSet (Bytes.toInt b) j = (Ideal.ofByte b).val.testBit (7 - j) := by
  unfold Screen.bitSet
  rw [Nat.testBit_eq_decide_div_mod_eq, decide_eq_decide]
  change (b.toNat : Int) / ((2 ^ (7 - j) : Nat) : Int) % 2 = 1 ↔ b.toNat / 2 ^ (7 - j) % 2 = 1
  omega

/-- Both draw the same pixels. -/
theorem ideal_sprite {m : Machine ρ} {k : Nibble} {n : Nat} (h : (m.ideal n).HasBlock k.val)
    (x y : Nibble) :
    (m.ideal n).sprite x y k =
      (Screen.footprint (m.value x) (m.value y) (m.sprite k.val)).toFinset := by
  have hlen : (m.sprite k.val).length = k.val := by
    unfold sprite
    rw [List.length_map, Memory.length_slice]
  have hrow : ∀ (r : Nat) (hr : r < (m.sprite k.val).length) (j : Nat),
      Screen.bitSet (m.sprite k.val)[r] j =
        ((m.ideal n).memory (Ideal.address (m.index + r))).val.testBit (7 - j) := by
    intro r hr j
    have hbyte : (m.sprite k.val)[r] = Bytes.toInt (m.memory.cell (m.index.toNat + r)) := by
      simp only [sprite, Memory.slice, List.getElem_map, List.getElem_range]
    rw [ideal_block h (by omega), ← bitSet_toInt, hbyte]
  ext p
  rw [List.mem_toFinset, Screen.mem_footprint]
  unfold Ideal.sprite
  rw [Finset.mem_image]
  constructor
  · rintro ⟨⟨r, j⟩, hset, rfl⟩
    rw [Finset.mem_filter] at hset
    have hr : r.val < (m.sprite k.val).length := by
      rw [hlen]
      exact r.isLt
    refine ⟨r.val, hr, j.val, j.isLt, ?_, rfl⟩
    rw [hrow r.val hr]
    exact hset.2
  · rintro ⟨r, hr, j, hj, hset, rfl⟩
    rw [hrow r hr] at hset
    exact ⟨(⟨r, by omega⟩, ⟨j, hj⟩), Finset.mem_filter.mpr ⟨Finset.mem_univ _, hset⟩, rfl⟩

end Machine

end Chip8
