import Chip8.Proofs.Screen
import Chip8.View

/-!
# Pictures of Screens

What a picture tells of the screen that it shows.

A picture has one place for each pixel of the screen, in the same row by row
order, and holds one of two colours there. As long as the two differ, nothing of
the screen is lost: the lit pixels are those in the first of them.

## Main definitions

* `Picture.screen`: The screen of which a picture has its first colour.

## Theorems

* `Picture.colour_ofScreen`: The colour of a pixel.
* `Picture.screen_ofScreen`: A screen can be told from its picture in two colours
  that differ.
-/

namespace Chip8

namespace Picture

/-- The screen that is lit where a picture has a colour. -/
def screen (p : Picture) (on : Colour) : Screen :=
  ⟨p.pixels.map fun c => decide (c = on)⟩

/-- A pixel has the colour of its place, row by row. -/
theorem colour_ofScreen (s : Screen) (on off : Colour) (pos : Screen.Pixel) :
    (ofScreen s on off).colour pos = if s.lit pos then on else off := by
  rw [Screen.lit_eq s pos pos.offset.isLt]
  exact Vector.getElem_map _ pos.offset.isLt

/-- With two colours nothing of the screen is lost. -/
theorem screen_ofScreen (s : Screen) {on off : Colour} (h : on ≠ off) :
    (ofScreen s on off).screen on = s := by
  unfold screen ofScreen
  rw [Vector.map_map]
  have hcell :
      ((fun c => decide (c = on)) ∘ fun isLit : Bool => if isLit then on else off) = id := by
    funext isLit
    cases isLit with
    | true => exact decide_eq_true rfl
    | false => exact decide_eq_false h.symm
  rw [hcell, Vector.map_id]

end Picture

end Chip8
