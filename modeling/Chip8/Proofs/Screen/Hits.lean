import Chip8.Proofs.Machine.Bounds
import Chip8.Proofs.Screen
import Mathlib.Algebra.BigOperators.Fin
import Mathlib.Data.Int.Bitwise

/-!
# Sprites of Any Size

Drawing in closed form, for any number of rows and any integers as rows.

A set bit of a sprite falls on the pixel that has its coordinates on the joined grid.
A sprite with more than thirty-two rows comes round to pixels that it has flipped
before, so what counts is how many of its bits fall on a pixel. These numbers say
everything about a drawing: a pixel changes where they are odd, and something is hit
where a bit falls on a lit pixel or two of them fall on the same one.

## Main definitions

* `Screen.hits`: The set bits of a sprite that fall on a pixel.
* `Screen.Covers`: There is one.

## Theorems

* `Screen.bitSet_eq_testBit`: Bits by division are the bits of an integer.
* `Screen.card_hits`: How often a pixel is flipped.
* `Screen.lit_draw`, `Screen.hit_draw_iff`: What drawing a sprite does that is no higher than
  the screen.
* `Screen.draw_by_hits`: What drawing a sprite does.
-/

namespace Chip8

namespace Screen

/-! ### Bits -/

/-- Bits by division are the bits of an integer, also below zero. -/
theorem bitSet_eq_testBit (row : Int) (j : Nat) : bitSet row j = row.testBit (7 - j) := by
  unfold bitSet
  generalize 7 - j = k
  have hpos : 0 < ((Nat.pow 2 k : Nat) : Int) := Int.natCast_pos.mpr (Nat.two_pow_pos k)
  cases row with
  | ofNat m =>
      rw [Int.testBit, Nat.testBit_eq_decide_div_mod_eq, decide_eq_decide]
      change ((m / Nat.pow 2 k % 2 : Nat) : Int) = 1 ↔ m / Nat.pow 2 k % 2 = 1
      omega
  | negSucc m =>
      -- The bits below zero are those of the complement, turned over.
      rw [Int.testBit, Nat.testBit_eq_decide_div_mod_eq, ← decide_not, decide_eq_decide,
        Int.negSucc_ediv _ hpos]
      change -(((m / Nat.pow 2 k : Nat) : Int) + 1) % 2 = 1 ↔ ¬ m / Nat.pow 2 k % 2 = 1
      omega

/-- The set bits of a sprite that fall on a pixel, each as its row and its place from
    the left. -/
def hits (x y : Int) (rows : List Int) (p : Pixel) : Finset (Fin rows.length × Fin 8) :=
  Finset.univ.filter fun b => (rows.get b.1).testBit (7 - b.2) = true ∧
    (y + b.1) % 32 = p.1.val ∧ (x + b.2) % 64 = p.2.val

/-- A place is wrapped to the pixel of its remainders. -/
theorem wrap_eq_iff (row col : Int) (p : Pixel) :
    Pixel.wrap row col = p ↔ row % 32 = p.1.val ∧ col % 64 = p.2.val := by
  unfold Pixel.wrap
  rw [Prod.ext_iff, Fin.ext_iff, Fin.ext_iff]
  simp only []
  omega

/-- Counting along a range is counting its places. -/
theorem countP_range (n : Nat) (q : Nat → Bool) :
    (List.range n).countP q = ∑ j : Fin n, if q j then 1 else 0 := by
  induction n with
  | zero => rfl
  | succ n ih =>
      rw [List.range_succ, List.countP_append, ih, List.countP_singleton, Fin.sum_univ_castSucc]
      rfl

/-- A pixel is flipped once for each set bit that falls on it. -/
theorem card_hits (x y : Int) (rows : List Int) (p : Pixel) :
    (hits x y rows p).card = (footprint x y rows).count p := by
  induction rows generalizing y with
  | nil => rfl
  | cons row rows ih =>
      unfold footprint
      rw [List.count_append, ← ih]
      unfold hits columns
      rw [List.count, List.countP_map, List.countP_filter, countP_range]
      simp only [Finset.card_filter, Fintype.sum_prod_type]
      -- The first row is split off, and the others are one further down.
      refine (Fin.sum_univ_succ (n := rows.length) _).trans (congrArg₂ _ ?_ ?_)
      · refine Finset.sum_congr rfl fun j _ => if_congr ?_ rfl rfl
        rw [Bool.and_eq_true, Function.comp_apply, beq_iff_eq, wrap_eq_iff, bitSet_eq_testBit,
          and_comm, Fin.val_zero, Int.natCast_zero, Int.add_zero]
        rfl
      · refine Finset.sum_congr rfl fun i _ => Finset.sum_congr rfl fun j _ => if_congr ?_ rfl rfl
        rw [Fin.val_succ, show y + ((i.val + 1 : Nat) : Int) = y + 1 + i.val by omega]
        rfl

/-! ### Sprites that come round to no pixel twice -/

/-- A set bit of a sprite falls on a pixel. -/
def Covers (x y : Int) (rows : List Int) (p : Pixel) : Prop :=
  (hits x y rows p).Nonempty

instance (x y : Int) (rows : List Int) (p : Pixel) : Decidable (Covers x y rows p) :=
  inferInstanceAs (Decidable (Finset.Nonempty _))

theorem covers_iff (x y : Int) (rows : List Int) (p : Pixel) :
    Covers x y rows p ↔ p ∈ footprint x y rows := by
  unfold Covers
  rw [← Finset.card_pos, card_hits, List.count_pos_iff]

/-- A sprite of at most 32 rows flips what it covers. No row of it comes around to another. -/
theorem lit_draw (s : Screen) (x y : Int) {rows : List Int} (h : rows.length ≤ 32) (p : Pixel) :
    (s.draw x y rows).1.lit p = if Covers x y rows p then !s.lit p else s.lit p := by
  have hodd := odd_count_iff (footprint_nodup x y h) p
  unfold draw
  rw [lit_foldl]
  exact if_congr (hodd.trans (covers_iff x y rows p).symm) rfl rfl

theorem hit_draw_iff (s : Screen) (x y : Int) {rows : List Int} (h : rows.length ≤ 32) :
    (s.draw x y rows).2 = true ↔ ∃ p, Covers x y rows p ∧ s.lit p = true := by
  have hit := hit_foldl (footprint_nodup x y h) s false
  rw [or_iff_right Bool.false_ne_true] at hit
  refine hit.trans (exists_congr fun p => ?_)
  rw [Finset.mem_inter, mem_litSet, List.mem_toFinset, covers_iff, and_comm]

/-- What drawing a sprite does, whatever its rows are and wherever it is drawn. A pixel
    changes if the number of set bits that fall on it is odd, and is lit or dark as
    before. The sprite collides if a bit falls on a lit pixel, or if two fall on the same
    one. -/
theorem draw_by_hits (s : Screen) (x y : Int) (rows : List Int) :
    (∀ p, (s.draw x y rows).1.lit p =
      if Odd (hits x y rows p).card then !s.lit p else s.lit p) ∧
    (∀ c ∈ (s.draw x y rows).1.frame, c = 0 ∨ c = 0xFFFFFFFF) ∧
    ((s.draw x y rows).2 = true ↔
      ∃ p, (1 ≤ (hits x y rows p).card ∧ s.lit p = true) ∨ 2 ≤ (hits x y rows p).card) := by
  simp only [card_hits]
  refine ⟨lit_foldl _ s false, frame_canonical _, ?_⟩
  exact (hit_foldl_iff _ s false).trans (or_iff_right Bool.false_ne_true)

end Screen

end Chip8
