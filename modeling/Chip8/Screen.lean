import Chip8.Action

/-!
# Screen

A grid of 32 rows and 64 columns of pixels, each lit or dark, whose edges are
joined: what leaves on one side enters on the other. Sprites are drawn by
flipping pixels, and a sprite collides when it flips a lit pixel, one of its
own included.

## Main definitions

* `Screen.Pixel`: A position of the grid.
* `Screen`: Which pixels are lit.
* `Screen.footprint`: The pixels that a sprite flips, with repetitions.
* `Screen.flip`: One flip, noting a collision.
* `Screen.draw`: All flips of a sprite.
-/

namespace Chip8

/-- Which pixels are lit, row by row. -/
structure Screen where
  cells : Vector Bool 2048
  deriving DecidableEq

namespace Screen

/-- A position: row and column. -/
abbrev Pixel := Fin 32 × Fin 64

/-- The place of a pixel in the row by row order. -/
def Pixel.offset (p : Pixel) : Fin 2048 :=
  ⟨64 * p.1.val + p.2.val, by omega⟩

/-- The pixel at integer coordinates on the joined grid. -/
def Pixel.wrap (row col : Int) : Pixel :=
  (⟨(row % 32).toNat, by omega⟩, ⟨(col % 64).toNat, by omega⟩)

/-- The dark screen. -/
def dark : Screen :=
  ⟨Vector.replicate 2048 false⟩

/-- Whether a pixel is lit. -/
def lit (s : Screen) (p : Pixel) : Bool :=
  s.cells.get p.offset

/-- Whether the pixel at a row and a column is lit. Coordinates outside the
    grid are refused here; only drawing wraps. -/
def pixel (row col : Int) : Action Screen Bool := fun s =>
  if h : (0 ≤ row ∧ row < 32) ∧ 0 ≤ col ∧ col < 64 then
    .ok (s.lit (⟨row.toNat, by omega⟩, ⟨col.toNat, by omega⟩)) s
  else
    .error (.pixel row col) s

/-- Whether bit 7 less `j` of a sprite row is set. -/
def bitSet (row : Int) (j : Nat) : Bool :=
  row / Nat.pow 2 (7 - j) % 2 = 1

/-- The columns of one sprite row whose bit is set. -/
def columns (row : Int) : List Nat :=
  (List.range 8).filter (bitSet row)

/-- The pixels that a sprite at `(x, y)` flips, in drawing order. Each integer
    is one row, eight pixels wide, its bit 7 leftmost. -/
def footprint (x y : Int) : List Int → List Pixel
  | [] => []
  | row :: rows =>
    (columns row).map (fun (j : Nat) => Pixel.wrap y (x + j)) ++ footprint x (y + 1) rows

/-- Flip a pixel, and note whether it was lit. -/
def flip (state : Screen × Bool) (p : Pixel) : Screen × Bool :=
  let (s, hit) := state
  let was := s.lit p
  (⟨s.cells.set p.offset (!was)⟩, hit || was)

/-- Draw a sprite: the screen after all flips, and whether any of them hit a
    lit pixel. -/
def draw (s : Screen) (x y : Int) (sprite : List Int) : Screen × Bool :=
  (footprint x y sprite).foldl flip (s, false)

end Screen

end Chip8
