/-!
# Floating Point Numbers as Fractions

A finite double is an integer times a power of two. Decoding gives the two
exactly; encoding rounds a fraction to the nearest double, and to the one with
an even significand when two are equally near.

## Main definitions

* `Binary64.Parts`: What the bits of a double say.
* `Binary64.parts`: Decoding.
* `Binary64.ofRatio`: Encoding.
-/

namespace Chip8

namespace Binary64

/-- What the bits of a double say. -/
inductive Parts where
  /-- The value `significand * 2 ^ exponent`, negated or not. -/
  | finite (negative : Bool) (significand : Nat) (exponent : Int)
  | infinite (negative : Bool)
  | notANumber
  deriving DecidableEq, Repr

/-- The least significand of a normal double. Its bit is left out of the
    encoding. -/
def leading : Nat := 0x10000000000000

/-- The exponent field of what is no finite number. -/
def special : Nat := 2047

/-- Decode a double. -/
def parts (x : Float) : Parts :=
  let bits : Nat := x.toBits.toNat
  let negative := 0x8000000000000000 ≤ bits
  let biased : Nat := bits / leading % 2048
  let fraction : Nat := bits % leading
  if biased = special then
    if fraction = 0 then .infinite negative else .notANumber
  else if biased = 0 then
    .finite negative fraction (-1074)
  else
    .finite negative (fraction + leading) (biased - 1075)

/-- A fraction times a power of two, as a fraction. -/
def scale (num den : Nat) (e : Int) : Nat × Nat :=
  if 0 ≤ e then (num <<< e.toNat, den) else (num, den <<< (-e).toNat)

/-- A quotient rounded to the nearest integer, a half to the even one. -/
def roundDiv (num den : Nat) : Nat :=
  let q := num / den
  let r := num % den
  if den < 2 * r || (2 * r == den && q % 2 == 1) then q + 1 else q

/-- The exponent at which a fraction has a significand of at most 53 bits. -/
def exponentOf (num den : Nat) : Int :=
  let e := max ((num.log2 : Int) - den.log2 - 53) (-1074)
  let (n, d) := scale num den (-e)
  if 2 * leading ≤ n / d then e + 1 else e

/-- The bits of infinity, above those of all finite doubles. -/
def infinity : Nat := special * leading

/-- The double nearest to a fraction. -/
def ofRatio (num den : Nat) : Float :=
  if num = 0 then 0
  else
    let e := exponentOf num den
    let (n, d) := scale num den (-e)
    -- A significand that rounds up to a power of two carries into the exponent by itself.
    let bits := (e + 1074).toNat * leading + roundDiv n d
    Float.ofBits (UInt64.ofNat (min bits infinity))

end Binary64

end Chip8
