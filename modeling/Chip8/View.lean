import Chip8.Screen
import Chip8.Text.Basic

/-!
# The View

The picture of the screen in two colours, and the widget that shows it, so
many host pixels wide and high for each pixel. Colours are given by names, and the host
says which colours these are.

## Main definitions

* `Colour`: A colour as a number.
* `Palette`: The colours that a host has for names.
* `Picture`: The colours of all pixels.
* `Picture.ofScreen`: The picture of a screen.
* `View`: The widget, with the picture that it shows.
-/

namespace Chip8

/-- An opaque colour: `0xFF`, red, green and blue. -/
abbrev Colour := UInt32

namespace Colour

/-- The value of a digit in base sixteen. -/
def digit? (c : Char) : Option Nat :=
  if c.isDigit then some (c.toNat - 48)
  else if 'a' ≤ c ∧ c ≤ 'f' then some (c.toNat - 87)
  else if 'A' ≤ c ∧ c ≤ 'F' then some (c.toNat - 55)
  else none

/-- The colour of six digits behind a number sign. Other texts are black. -/
def ofText (t : Text) : Colour :=
  match t.chars with
  | '#' :: ds =>
    match ds.mapM digit? with
    | some ns =>
      if ns.length = 6 then UInt32.ofNat (0xFF000000 + ns.foldl (fun n d => 16 * n + d) 0)
      else 0xFF000000
    | none => 0xFF000000
  | _ => 0xFF000000

end Colour

/-- The colours that a host has for names. Every name has one: what is none is
    taken for some colour as well. -/
class Palette where
  colour : Text → Colour

/-- A host that knows colours by their digits only. -/
instance : Palette := ⟨Colour.ofText⟩

/-- The colours of all pixels, row by row. -/
structure Picture where
  pixels : Vector Colour 2048
  deriving DecidableEq

namespace Picture

/-- The colour of a pixel. -/
def colour (p : Picture) (pos : Screen.Pixel) : Colour :=
  p.pixels.get pos.offset

/-- The picture of a screen: lit pixels in one colour, dark ones in another. -/
def ofScreen (s : Screen) (on off : Colour) : Picture :=
  ⟨s.cells.map fun isLit => if isLit then on else off⟩

end Picture

/-- The widget that shows a picture. -/
structure View where
  width : Nat
  height : Nat
  on : Colour
  off : Colour
  /-- What is shown. Nothing until the first picture. -/
  picture : Option Picture
  /-- How often a new picture was shown. -/
  updates : Nat
  deriving DecidableEq

namespace View

/-- A widget without a picture. -/
def make [Palette] (scale : Nat) (foreground background : Text) : View :=
  ⟨64 * scale, 32 * scale, Palette.colour foreground, Palette.colour background, none, 0⟩

/-- Show a screen. -/
def display (v : View) (s : Screen) : View :=
  { v with picture := some (.ofScreen s v.on v.off), updates := v.updates + 1 }

end View

end Chip8
