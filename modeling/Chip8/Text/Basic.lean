/-!
# Texts

A text is a row of code points. Nearly all of them are characters. The others
are halves: two of them in a row, a high one and a low one, stand for one
character above U+FFFF, but an escape by number can put a half down by itself.

## Main definitions

* `CodePoint`: A character or a half.
* `Text`: A row of code points.
* `Text.string?`: The characters of a text without halves.
* `Text.chars`: Something like the characters of any text.
-/

namespace Chip8

/-- A character, or the half of one above U+FFFF. -/
inductive CodePoint where
  | char (c : Char)
  /-- The half at U+D800 and `k` more. -/
  | half (k : Fin 2048)
  deriving DecidableEq, Repr

namespace CodePoint

/-- The number of the first half. -/
def firstHalf : Nat := 0xD800

/-- The number of a code point. -/
def number : CodePoint → Nat
  | char c => c.toNat
  | half k => firstHalf + k.val

/-- The code point of a number. -/
def ofNat (n : Nat) : CodePoint :=
  if firstHalf ≤ n ∧ n < 0xE000 then half (Fin.ofNat 2048 (n - firstHalf)) else char (Char.ofNat n)

/-- A character, or what is shown in the place of a half. -/
def shown : CodePoint → Char
  | char c => c
  | half _ => '\uFFFD'

/-- A character. -/
def char? : CodePoint → Option Char
  | char c => some c
  | half _ => none

end CodePoint

/-- A row of code points. -/
structure Text where
  points : List CodePoint
  deriving DecidableEq, Repr, Inhabited

namespace Text

/-- The text of some characters. -/
def ofChars (cs : List Char) : Text :=
  ⟨cs.map .char⟩

/-- The text of a string. -/
def ofString (s : String) : Text :=
  ofChars s.toList

instance : Coe String Text := ⟨ofString⟩

instance : Append Text := ⟨fun s t => ⟨s.points ++ t.points⟩⟩

/-- Whether a text has no code point. -/
def isEmpty (t : Text) : Bool :=
  t.points.isEmpty

/-- The characters of a text, with U+FFFD for halves. As no half is a digit, a
    blank or a mark, that is enough to read numerals. -/
def chars (t : Text) : List Char :=
  t.points.map CodePoint.shown

/-- The characters of a text, if it has no halves. -/
def string? (t : Text) : Option String :=
  (t.points.mapM CodePoint.char?).map String.ofList

instance : ToString Text := ⟨fun t => String.ofList t.chars⟩

end Text

end Chip8
