import Chip8.Proofs.Screen

/-!
# Sprites One After Another

Drawing any number of sprites, and what their order has to do with it.

A sprite flips pixels, so sprites that are drawn one after another are one long list of
flips. What comes of such a list depends on how often each pixel is in it: where that is
odd a pixel changes, and something is hit on the way if a pixel is lit and flipped, or
flipped more than once. To draw the sprites in another order leaves all these numbers as
they are, and to draw all of them again doubles them.

Which of the sprites collides is another matter. Of two that overlap on a dark screen it
is the later one.

## Main definitions

* `Screen.Sprite`: A sprite and where it is drawn.
* `Screen.drawAll`: Sprites drawn one after another.

## Theorems

* `Screen.drawAll_eq`: Sprites drawn one after another are one list of flips.
* `Screen.collides_iff`: One of them collides, by the number of flips at each pixel.
* `Screen.draws_in_any_order`: What does not depend on their order, and what does.
-/

namespace Chip8

namespace Screen

/-- A sprite and where it is drawn. -/
structure Sprite where
  x : Int
  y : Int
  rows : List Int

/-- The pixels that a sprite flips, with repetitions. -/
def Sprite.pixels (d : Sprite) : List Pixel :=
  footprint d.x d.y d.rows

/-- The screen after sprites have been drawn one after another, and for each of them
    whether it collided. -/
def drawAll (s : Screen) : List Sprite → Screen × List Bool
  | [] => (s, [])
  | d :: ds =>
    let first := s.draw d.x d.y d.rows
    let rest := drawAll first.1 ds
    (rest.1, first.2 :: rest.2)

/-- What has been hit before is carried along and has no influence. -/
theorem foldl_flip_eq (l : List Pixel) (s : Screen) (hit : Bool) :
    l.foldl flip (s, hit) =
      ((l.foldl flip (s, false)).1, hit || (l.foldl flip (s, false)).2) := by
  induction l generalizing s hit with
  | nil => rw [List.foldl_nil, List.foldl_nil, Bool.or_false]
  | cons q l ih =>
      have hflip : ∀ b, flip (s, b) q = ((flip (s, false) q).1, b || s.lit q) := fun _ => rfl
      rw [List.foldl_cons, List.foldl_cons, hflip hit, hflip false, ih _ (hit || s.lit q),
        ih _ (false || s.lit q), Bool.false_or, Bool.or_assoc]

/-- Sprites that are drawn one after another are one list of flips, and one of them
    collides if a flip hits a lit pixel. -/
theorem drawAll_eq (s : Screen) (ds : List Sprite) :
    ((s.drawAll ds).1, (s.drawAll ds).2.any id) =
      (ds.flatMap Sprite.pixels).foldl flip (s, false) := by
  induction ds generalizing s with
  | nil => rfl
  | cons d ds ih =>
      have hfirst : d.pixels.foldl flip (s, false) = s.draw d.x d.y d.rows := rfl
      rw [List.flatMap_cons, List.foldl_append, hfirst, foldl_flip_eq, ← ih]
      rfl

/-- Sprites in a row flip all of their pixels in a row. -/
theorem screen_drawAll (s : Screen) (ds : List Sprite) :
    (s.drawAll ds).1 = ((ds.flatMap Sprite.pixels).foldl flip (s, false)).1 :=
  congrArg Prod.fst (drawAll_eq s ds)

/-- One of the sprites hits if a pixel was lit before and is covered, or is covered twice. -/
theorem collides_iff (s : Screen) (ds : List Sprite) :
    true ∈ (s.drawAll ds).2 ↔
      ∃ p, (1 ≤ (ds.flatMap Sprite.pixels).count p ∧ s.lit p = true) ∨
        2 ≤ (ds.flatMap Sprite.pixels).count p := by
  have hany : (s.drawAll ds).2.any id = ((ds.flatMap Sprite.pixels).foldl flip (s, false)).2 :=
    congrArg Prod.snd (drawAll_eq s ds)
  have hmem : true ∈ (s.drawAll ds).2 ↔ (s.drawAll ds).2.any id = true := by
    rw [List.any_eq_true]
    constructor
    · intro h
      exact ⟨true, h, rfl⟩
    · rintro ⟨b, hb, htrue⟩
      rw [← show b = true from htrue]
      exact hb
  rw [hmem, hany, hit_foldl_iff]
  exact or_iff_right Bool.false_ne_true

/-- How often a pixel is flipped does not depend on the order of the sprites. -/
theorem count_pixels_perm {ds ds' : List Sprite} (h : ds.Perm ds') (p : Pixel) :
    (ds'.flatMap Sprite.pixels).count p = (ds.flatMap Sprite.pixels).count p :=
  (h.flatMap_right Sprite.pixels).symm.count_eq p

/-- Sprites drawn in another order make the same screen, and whether any of them collides
    is the same. Drawn once more, in whatever order, they restore the screen that was there
    before. Which of them collides may depend on the order: there are two of which, drawn in
    either order, only the later one collides. -/
theorem draws_in_any_order :
    (∀ (s : Screen) (ds ds' : List Sprite), ds.Perm ds' →
      (s.drawAll ds').1 = (s.drawAll ds).1 ∧
      (true ∈ (s.drawAll ds').2 ↔ true ∈ (s.drawAll ds).2) ∧
      ((s.drawAll ds).1.drawAll ds').1 = s) ∧
    ∃ (s : Screen) (d d' : Sprite),
      (s.drawAll [d, d']).2 = [false, true] ∧ (s.drawAll [d', d]).2 = [false, true] := by
  refine ⟨fun s ds ds' h => ?_, ?_⟩
  · have hcount := count_pixels_perm h
    refine ⟨?_, ?_, ?_⟩
    · rw [screen_drawAll, screen_drawAll]
      refine ext_lit fun p => ?_
      rw [lit_foldl, lit_foldl, hcount p]
    · rw [collides_iff, collides_iff]
      simp only [hcount]
    · rw [screen_drawAll, screen_drawAll]
      exact foldl_flip_restores hcount s false false
  · refine ⟨dark, ⟨0, 0, [0x80]⟩, ⟨-1, 32, [0xC0]⟩, ?_, ?_⟩
    · decide +kernel
    · decide +kernel

/-- Three sprites that overlap across the edges of the screen, one of them higher than the
    screen, make the same screen in two orders, collide in both, and take each other
    back. -/
theorem overlapping_sprites_agree :
    let a : Sprite := ⟨60, 30, List.replicate 33 0x80⟩
    let b : Sprite := ⟨-4, 3, [-1]⟩
    let c : Sprite := ⟨1, 35, [0x180, 0x3C]⟩
    [a, b, c].Perm [c, a, b] ∧ (dark.drawAll [c, a, b]).1 = (dark.drawAll [a, b, c]).1 ∧
      true ∈ (dark.drawAll [c, a, b]).2 ∧
      ((dark.drawAll [a, b, c]).1.drawAll [c, a, b]).1 = dark := by
  intro a b c
  have hperm : [a, b, c].Perm [c, a, b] := @List.perm_append_comm _ [a, b] [c]
  have hhit : true ∈ (dark.drawAll [a, b, c]).2 := by
    -- The last row of the high sprite comes round to its first.
    refine (collides_iff dark [a, b, c]).mpr ⟨(30, 60), Or.inr ?_⟩
    decide +kernel
  rcases draws_in_any_order.1 dark _ _ hperm with ⟨hscreen, hcollide, hback⟩
  exact ⟨hperm, hscreen, hcollide.mpr hhit, hback⟩

end Screen

end Chip8
