/-!
# Padded Numerals

Hexadecimal numerals of a least width, as listings and diagnostics write them.
The width counts the whole numeral, so a sign and a base mark use up room that
zeros would have taken: the address `-1` in six places is `-0x001`.

## Main definitions

* `Padded.write`: A sign, a mark, zeros up to the width, and the digits.
* `Padded.word`: A machine word, four places in capitals.
* `Padded.address`: An address, six places with its base mark.
-/

namespace Chip8

namespace Padded

/-- The digits of a natural number in base 16, in capitals. -/
def capitals (n : Nat) : List Char :=
  (Nat.toDigits 16 n).map Char.toUpper

/-- A signed numeral: the sign, the base mark, then the digits of the
    magnitude, with zeros before them up to `width` characters in all. -/
def write (width : Nat) (mark : String) (digits : Nat → List Char) (n : Int) : String :=
  let sign := if n < 0 then ['-'] else []
  let lead := sign ++ mark.toList
  let body := digits n.natAbs
  String.ofList (lead ++ List.replicate (width - lead.length - body.length) '0' ++ body)

/-- A numeral in capitals without a base mark. -/
def hex (width : Nat) (n : Int) : String :=
  write width "" capitals n

/-- A machine word: four places. -/
def word (n : Int) : String :=
  hex 4 n

/-- An address: six places, base mark included, in small letters. -/
def address (n : Int) : String :=
  write 6 "0x" (Nat.toDigits 16) n

end Padded

end Chip8
