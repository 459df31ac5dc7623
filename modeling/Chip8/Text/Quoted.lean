import Chip8.Text.Basic
import Chip8.Text.Printable

/-!
# Quoted Text

A text between quotes, with everything that would not show as itself written
as an escape. Single quotes are used unless the text holds one and no double
quote.

## Main definitions

* `Quoted.escape`: A code point as it stands between quotes.
* `Quoted.write`: A text between quotes.
* `Quoted.writeBytes`: A row of bytes between quotes.
-/

namespace Chip8

namespace Quoted

/-- A number in base 16 with leading zeros. -/
def hexDigits (width n : Nat) : List Char :=
  let ds := Nat.toDigits 16 n
  List.replicate (width - ds.length) '0' ++ ds

/-- A code point that does not show, by number. -/
def byNumber (n : Nat) : List Char :=
  if n < 0x100 then ['\\', 'x'] ++ hexDigits 2 n
  else if n < 0x10000 then ['\\', 'u'] ++ hexDigits 4 n
  else ['\\', 'U'] ++ hexDigits 8 n

/-- A code point between quotes. Tabs and line ends have names; halves and
    other characters that do not show are written by number. -/
def escape (quote : Char) : CodePoint → List Char
  | .char c =>
    if c = quote ∨ c = '\\' then ['\\', c]
    else if c = '\t' then ['\\', 't']
    else if c = '\n' then ['\\', 'n']
    else if c = '\r' then ['\\', 'r']
    else if Printable.isShown c then [c]
    else byNumber c.toNat
  | p => byNumber p.number

/-- The quotes around a text. -/
def quoteOf (t : Text) : Char :=
  if .char '\'' ∈ t.points ∧ .char '"' ∉ t.points then '"' else '\''

/-- A text between quotes. -/
def write (t : Text) : String :=
  let quote := quoteOf t
  String.ofList ([quote] ++ t.points.flatMap (escape quote) ++ [quote])

/-- A byte between quotes. Only those of seven bits can show. -/
def escapeByte (quote : Char) (b : UInt8) : List Char :=
  if b.toNat < 0x80 then escape quote (.char (Char.ofNat b.toNat)) else byNumber b.toNat

/-- A row of bytes between quotes, with a mark in front of them. -/
def writeBytes (bs : List UInt8) : String :=
  let quote := quoteOf (.ofChars (bs.map fun b => Char.ofNat b.toNat))
  String.ofList (['b', quote] ++ bs.flatMap (escapeByte quote) ++ [quote])

end Quoted

end Chip8
