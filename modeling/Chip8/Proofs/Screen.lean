import Chip8.Screen
import Mathlib.Algebra.Ring.Parity
import Mathlib.Data.Finset.SymmDiff
import Mathlib.Data.Fintype.Prod

/-!
# Drawing on Sets

The screen as the set of its lit pixels. A flip adds a pixel or takes it away. After
some flips, a pixel is therefore what their number says, odd or even, and whether one
of them hits a lit pixel depends on which pixels were lit and on which are flipped more
than once. The order of the flips matters for neither.

Flips that are all at different pixels take the symmetric difference with the set of
these pixels, and one of them hits a lit pixel if the two sets meet.

A sprite has at most fifteen rows of eight pixels, and the joined grid has
thirty-two rows of sixty-four. However it wraps, a sprite therefore flips no
pixel twice. This is what lets its pixels be treated as a set.

## Main definitions

* `Screen.litSet`: The lit pixels.

## Theorems

* `Screen.mem_footprint`: The pixels that a sprite flips.
* `Screen.footprint_nodup`: A sprite of at most thirty-two rows flips no pixel
  twice.
* `Screen.ext_lit`: A screen is told by its pixels.
* `Screen.lit_foldl`, `Screen.hit_foldl_iff`: Flips by their number at each pixel.
* `Screen.foldl_flip_restores`: Flips that take each other back.
* `Screen.litSet_foldl`, `Screen.hit_foldl`: Flips as operations on sets.
-/

namespace Chip8

namespace Screen

open scoped symmDiff

/-- The lit pixels. -/
def litSet (s : Screen) : Finset Pixel :=
  Finset.univ.filter fun p => s.lit p = true

theorem mem_litSet (s : Screen) (p : Pixel) : p ∈ s.litSet ↔ s.lit p = true := by
  unfold litSet
  rw [Finset.mem_filter]
  exact ⟨fun h => h.2, fun h => ⟨Finset.mem_univ p, h⟩⟩

theorem lit_eq (s : Screen) (p : Pixel) (h : p.offset.val < 2048) :
    s.lit p = s.cells[p.offset.val] := rfl

theorem litSet_dark : dark.litSet = ∅ := by
  ext p
  rw [mem_litSet, lit_eq _ _ p.offset.isLt]
  unfold dark
  rw [Vector.getElem_replicate]
  simp only [Bool.false_eq_true, Finset.notMem_empty]

/-- A screen is told by its pixels. -/
theorem ext_lit {s t : Screen} (h : ∀ p, s.lit p = t.lit p) : s = t := by
  refine congrArg Screen.mk (Vector.ext fun i hi => ?_)
  have hrow : i / 64 < 32 := by omega
  have hcol : i % 64 < 64 := by omega
  have hoffset : (Pixel.offset (⟨i / 64, hrow⟩, ⟨i % 64, hcol⟩)).val = i := by
    unfold Pixel.offset
    simp only []
    omega
  have hp := h (⟨i / 64, hrow⟩, ⟨i % 64, hcol⟩)
  rw [lit_eq _ _ (Fin.isLt _), lit_eq _ _ (Fin.isLt _)] at hp
  simp only [hoffset] at hp
  exact hp

/-! ### One flip -/

/-- Row by row, a pixel is found at its own place only. -/
theorem offset_injective {p q : Pixel} (h : p.offset = q.offset) : p = q := by
  have hval := congrArg Fin.val h
  unfold Pixel.offset at hval
  simp only [] at hval
  have hrow : p.1.val = q.1.val := by omega
  have hcol : p.2.val = q.2.val := by omega
  exact Prod.ext (Fin.ext hrow) (Fin.ext hcol)

theorem lit_flip (s : Screen) (hit : Bool) (p q : Pixel) :
    (flip (s, hit) p).1.lit q = if q = p then !s.lit p else s.lit q := by
  rw [lit_eq _ _ q.offset.isLt, lit_eq s q q.offset.isLt]
  unfold flip
  simp only []
  rw [Vector.getElem_set]
  by_cases h : q = p
  · rw [if_pos h, if_pos (by rw [h])]
  · rw [if_neg h, if_neg]
    intro heq
    exact h (offset_injective (Fin.ext heq)).symm

/-! ### All flips -/

/-- A pixel changes if it is flipped an odd number of times. -/
theorem lit_foldl (l : List Pixel) (s : Screen) (hit : Bool) (p : Pixel) :
    (l.foldl flip (s, hit)).1.lit p = if Odd (l.count p) then !s.lit p else s.lit p := by
  induction l generalizing s hit with
  | nil => rfl
  | cons q l ih =>
      rw [List.foldl_cons, ih, lit_flip]
      by_cases h : p = q
      · subst h
        simp only [if_true, List.count_cons_self, Nat.odd_add_one]
        by_cases hodd : Odd (l.count p)
        · rw [if_pos hodd, if_neg (not_not_intro hodd), Bool.not_not]
        · rw [if_neg hodd, if_pos hodd]
      · rw [if_neg h, List.count_cons_of_ne (Ne.symm h)]

/-- A lit pixel is hit if one is lit before and flipped, or if one is flipped twice: it
    is lit before one of these flips. -/
theorem hit_foldl_iff (l : List Pixel) (s : Screen) (hit : Bool) :
    (l.foldl flip (s, hit)).2 = true ↔
      hit = true ∨ ∃ p, (1 ≤ l.count p ∧ s.lit p = true) ∨ 2 ≤ l.count p := by
  induction l generalizing s hit with
  | nil =>
      refine (or_iff_left ?_).symm
      rintro ⟨p, ⟨h, -⟩ | h⟩
      all_goals exact absurd h (Nat.not_succ_le_zero _)
  | cons q l ih =>
      have hfirst : (flip (s, hit) q).2 = true ↔ hit = true ∨ s.lit q = true := by
        rw [← Bool.or_eq_true]
        rfl
      rw [List.foldl_cons]
      refine (ih (flip (s, hit) q).1 (flip (s, hit) q).2).trans ?_
      rw [hfirst, or_assoc]
      refine or_congr_right ?_
      -- Only at the first pixel do the flips before and after differ.
      constructor
      · rintro (hq | ⟨p, hp⟩)
        · exact ⟨q, Or.inl ⟨by rw [List.count_cons_self]; omega, hq⟩⟩
        · refine ⟨p, ?_⟩
          rw [lit_flip] at hp
          by_cases h : p = q
          · subst h
            rw [List.count_cons_self]
            omega
          · rw [if_neg h] at hp
            rw [List.count_cons_of_ne (Ne.symm h)]
            exact hp
      · rintro ⟨p, hp⟩
        by_cases h : p = q
        · subst h
          rw [List.count_cons_self] at hp
          cases hlit : s.lit p with
          | true => exact Or.inl rfl
          | false =>
              refine Or.inr ⟨p, Or.inl ⟨?_, ?_⟩⟩
              · rw [hlit] at hp
                simp only [Bool.false_eq_true, and_false, false_or] at hp
                omega
              · rw [lit_flip, if_pos rfl, hlit, Bool.not_false]
        · rw [List.count_cons_of_ne (Ne.symm h)] at hp
          refine Or.inr ⟨p, ?_⟩
          rw [lit_flip, if_neg h]
          exact hp

/-- Flips that are the same in number at each pixel take each other back. -/
theorem foldl_flip_restores {l l' : List Pixel} (h : ∀ p, l'.count p = l.count p) (s : Screen)
    (hit hit' : Bool) : (l'.foldl flip ((l.foldl flip (s, hit)).1, hit')).1 = s := by
  refine ext_lit fun p => ?_
  rw [lit_foldl, lit_foldl, h p]
  by_cases hodd : Odd (l.count p)
  · rw [if_pos hodd, if_pos hodd, Bool.not_not]
  · rw [if_neg hodd, if_neg hodd]

/-- Pixels that are all different are flipped once or not at all. -/
theorem odd_count_iff {l : List Pixel} (hl : l.Nodup) (p : Pixel) : Odd (l.count p) ↔ p ∈ l := by
  constructor
  · rintro ⟨k, hk⟩
    exact List.count_pos_iff.mp (by omega)
  · intro h
    rw [List.count_eq_one_of_mem hl h]
    exact odd_one

/-- Flips of different pixels make a symmetric difference. -/
theorem litSet_foldl {l : List Pixel} (hl : l.Nodup) (s : Screen) (hit : Bool) :
    (l.foldl flip (s, hit)).1.litSet = s.litSet ∆ l.toFinset := by
  ext p
  rw [mem_litSet, lit_foldl, Finset.mem_symmDiff, mem_litSet, List.mem_toFinset]
  simp only [odd_count_iff hl]
  by_cases h : p ∈ l
  · simp only [h, if_true, Bool.not_eq_true', not_true_eq_false, and_false, true_and, false_or,
      Bool.not_eq_true]
  · simp only [h, if_false, not_false_eq_true, and_true, false_and, or_false]

/-- They hit something if one of the pixels was lit. -/
theorem hit_foldl {l : List Pixel} (hl : l.Nodup) (s : Screen) (hit : Bool) :
    (l.foldl flip (s, hit)).2 = true ↔ hit = true ∨ (s.litSet ∩ l.toFinset).Nonempty := by
  rw [hit_foldl_iff]
  refine or_congr_right (exists_congr fun p => ?_)
  have hcount : l.count p ≤ 1 := List.nodup_iff_count_le_one.mp hl p
  rw [Finset.mem_inter, mem_litSet, List.mem_toFinset, ← List.one_le_count_iff, and_comm]
  exact or_iff_left (by omega)

/-! ### The pixels of a sprite -/

/-- The footprint of a sprite, by its rows and their bits. -/
theorem mem_footprint (x y : Int) (rows : List Int) (p : Pixel) :
    p ∈ footprint x y rows ↔
      ∃ (r : Nat) (h : r < rows.length) (j : Nat), j < 8 ∧ bitSet rows[r] j = true ∧
        p = Pixel.wrap (y + r) (x + j) := by
  induction rows generalizing y with
  | nil =>
      unfold footprint
      simp only [List.not_mem_nil, List.length_nil, Nat.not_lt_zero, IsEmpty.exists_iff,
        exists_false]
  | cons row rows ih =>
      unfold footprint
      rw [List.mem_append, List.mem_map, ih]
      unfold columns
      constructor
      · rintro (⟨j, hj, rfl⟩ | ⟨r, hr, j, hj, hset, rfl⟩)
        · rw [List.mem_filter, List.mem_range] at hj
          refine ⟨0, Nat.succ_pos _, j, hj.1, hj.2, ?_⟩
          rw [Int.natCast_zero, Int.add_zero]
        · refine ⟨r + 1, Nat.succ_lt_succ hr, j, hj, hset, ?_⟩
          rw [show y + 1 + (r : Int) = y + ((r + 1 : Nat) : Int) by omega]
      · rintro ⟨r, hr, j, hj, hset, rfl⟩
        cases r with
        | zero =>
            refine Or.inl ⟨j, List.mem_filter.mpr ⟨List.mem_range.mpr hj, hset⟩, ?_⟩
            rw [Int.natCast_zero, Int.add_zero]
        | succ r =>
            refine Or.inr ⟨r, Nat.lt_of_succ_lt_succ hr, j, hj, hset, ?_⟩
            rw [show y + 1 + (r : Int) = y + ((r + 1 : Nat) : Int) by omega]

/-- Places are one pixel if they differ by whole screens. -/
theorem wrap_inj {row row' col col' : Int} :
    Pixel.wrap row col = Pixel.wrap row' col' ↔ row % 32 = row' % 32 ∧ col % 64 = col' % 64 := by
  unfold Pixel.wrap
  rw [Prod.mk.injEq, Fin.mk.injEq, Fin.mk.injEq]
  omega

/-- A sprite of at most thirty-two rows flips no pixel twice. -/
theorem footprint_nodup (x y : Int) {rows : List Int} (h : rows.length ≤ 32) :
    (footprint x y rows).Nodup := by
  induction rows generalizing y with
  | nil => exact List.nodup_nil
  | cons row rows ih =>
      rw [List.length_cons] at h
      unfold footprint
      rw [List.nodup_append]
      refine ⟨?_, ih (y + 1) (by omega), ?_⟩
      · refine List.Nodup.map_on ?_ (List.nodup_range.filter _)
        intro i hi j hj heq
        unfold columns at hi hj
        rw [List.mem_filter, List.mem_range] at hi hj
        have hcol := (wrap_inj.mp heq).2
        omega
      · intro p hp q hq heq
        rw [List.mem_map] at hp
        rw [mem_footprint] at hq
        rcases hp with ⟨j, -, rfl⟩
        rcases hq with ⟨r, hr, k, -, -, rfl⟩
        have hrow := (wrap_inj.mp heq).1
        omega

end Screen

end Chip8
