import Chip8.Numeral.Binary64
import Chip8.Numeral.Digit

/-!
# Decimal Fractions

Decimal numerals with a point and an exponent, read as the nearest double and
written with the fewest digits that read back.

A decimal with `n` digits lies on a grid. If a point of the grid reads back,
then so does one of the value's two neighbours on it, so it is enough to test
those for one digit, two, and so on up to seventeen, which always suffice. Of
two neighbours that read back the nearer one is written.

## Main definitions

* `Decimal.read`: The double of a numeral.
* `Decimal.shortest`: The digits to write and the power of ten of the first.
* `Decimal.Layout`: When to use an exponent.
* `Decimal.write`: The text of a double.
-/

namespace Chip8

namespace Decimal

/-! ### Reading -/

/-- The leading decimal digits of a text, and the rest. -/
def spanDigits : List Char → List Nat × List Char
  | [] => ([], [])
  | c :: r =>
    match Digit.decimal c with
    | some d =>
      let (ds, rest) := spanDigits r
      (d :: ds, rest)
    | none => ([], c :: r)

/-- The double of `digits * 10 ^ e`. Exponents far out of range are decided by
    the number of digits, before any power is taken. -/
def ofDigits (ds : List Nat) (e : Int) : Float :=
  let n := Digit.value 10 ds
  if n = 0 then 0
  else
    let magnitude := ((ds.dropWhile (· = 0)).length : Int) + e
    if magnitude > 400 then Float.ofBits (UInt64.ofNat Binary64.infinity)
    else if magnitude < -400 then 0
    else if 0 ≤ e then Binary64.ofRatio (n * Nat.pow 10 e.toNat) 1
    else Binary64.ofRatio n (Nat.pow 10 (-e).toNat)

/-- An exponent: nothing, or a mark, an optional sign and digits. -/
def exponent : List Char → Option Int
  | [] => some 0
  | c :: r =>
    if c = 'e' ∨ c = 'E' then
      let (s, r) : Int × List Char :=
        match r with
        | '-' :: r => (-1, r)
        | '+' :: r => (1, r)
        | _ => (1, r)
      match spanDigits r with
      | ([], _) => none
      | (ds, []) => some (s * Digit.value 10 ds)
      | _ => none
    else none

/-- Digits with an optional point among them and an optional exponent. -/
def magnitude (s : List Char) : Option Float := do
  let (whole, r) := spanDigits s
  let (part, r) :=
    match r with
    | '.' :: r => spanDigits r
    | _ => ([], r)
  if whole.isEmpty && part.isEmpty then none
  else
    let e ← exponent r
    return ofDigits (whole ++ part) (e - part.length)

/-- The words for what is no finite number, in small letters. -/
def named (s : String) : Option Float :=
  if s = "inf" ∨ s = "infinity" then some (1 / 0)
  else if s = "nan" then some (0 / 0)
  else none

/-- The double of a numeral. -/
def read (s : List Char) : Option Float :=
  let unsigned (r : List Char) : Option Float :=
    (magnitude r).or (named (String.ofList (r.map Char.toLower)))
  match Digit.trim s with
  | '-' :: r => (unsigned r).map (- ·)
  | '+' :: r => unsigned r
  | r => unsigned r

/-! ### Writing -/

/-- A fraction times a power of ten, as a fraction. -/
def scaleTen (num den : Nat) (e : Int) : Nat × Nat :=
  if 0 ≤ e then (num * Nat.pow 10 e.toNat, den) else (num, den * Nat.pow 10 (-e).toNat)

/-- The power of ten of the first digit of a fraction. No double is so small
    that a shift by 400 places leaves nothing. -/
def leadingPlace (num den : Nat) : Int :=
  let (n, d) := scaleTen num den 400
  ((Nat.toDigits 10 (n / d)).length : Int) - 1 - 400

/-- The interval of the fractions that read back as a double, and the double
    itself, as numerators over one denominator. The gap below a power of two
    is half the gap above it. -/
structure Neighbourhood where
  low : Nat
  mid : Nat
  high : Nat
  den : Nat
  closed : Bool

/-- The interval of a positive double. -/
def neighbourhood (m : Nat) (e : Int) : Neighbourhood :=
  let below := if m = Binary64.leading ∧ -1074 < e then 1 else 2
  let (unit, den) := Binary64.scale 1 1 (e - 2)
  ⟨(4 * m - below) * unit, 4 * m * unit, (4 * m + 2) * unit, den, m % 2 = 0⟩

/-- Whether the fraction `d * 10 ^ p` reads back. -/
def Neighbourhood.contains (v : Neighbourhood) (d : Nat) (p : Int) : Bool :=
  let (n, t) := scaleTen (d * v.den) 1 p
  let low := v.low * t
  let high := v.high * t
  if v.closed then low ≤ n && n ≤ high else low < n && n < high

/-- The point of the grid `10 ^ p` that reads back and is nearest, if any. -/
def Neighbourhood.onGrid (v : Neighbourhood) (p : Int) : Option Nat :=
  let (n, d) := scaleTen v.mid v.den (-p)
  let floor := n / d
  let nearer := if d < 2 * (n % d) || (2 * (n % d) == d && floor % 2 == 1) then
    [floor + 1, floor] else [floor, floor + 1]
  nearer.find? fun k => v.contains k p

/-- The digits of the shortest decimal of a positive double, and the power of
    ten of the first digit. -/
def shortest (m : Nat) (e : Int) : List Char × Int :=
  let v := neighbourhood m e
  let k := leadingPlace v.mid v.den
  let hit := (List.range 17).findSome? fun (n : Nat) => do
    let d ← v.onGrid (k - n)
    return (d, k - n)
  match hit with
  | none => (['0'], 0)
  | some (d, p) =>
    let ds := Nat.toDigits 10 d
    let kept := (ds.reverse.dropWhile (· = '0')).reverse
    (kept, p + ds.length - 1)

/-- When a double is written with an exponent, and how. -/
structure Layout where
  /-- The least power of ten of a first digit that is written without one. -/
  least : Int
  /-- The greatest. -/
  greatest : Int
  /-- The least number of digits of an exponent. -/
  exponentDigits : Nat

/-- Digits with a point, for a first digit at power `k`. -/
def positional (ds : List Char) (k : Int) : List Char :=
  if k < 0 then
    ['0', '.'] ++ List.replicate (-k - 1).toNat '0' ++ ds
  else
    let n := k.toNat + 1
    let whole := ds.take n ++ List.replicate (n - ds.length) '0'
    let part := ds.drop n
    whole ++ ['.'] ++ (if part.isEmpty then ['0'] else part)

/-- Digits with an exponent. -/
def scientific (ds : List Char) (k : Int) (width : Nat) : List Char :=
  let part := ds.drop 1
  let es := Nat.toDigits 10 k.natAbs
  ds.take 1 ++ (if part.isEmpty then [] else '.' :: part) ++ ['e', if k < 0 then '-' else '+']
    ++ List.replicate (width - es.length) '0' ++ es

/-- The text of a double. -/
def write (f : Layout) (x : Float) : String :=
  match Binary64.parts x with
  | .notANumber => "nan"
  | .infinite negative => if negative then "-inf" else "inf"
  | .finite negative m e =>
    let body :=
      if m = 0 then ['0', '.', '0']
      else
        let (ds, k) := shortest m e
        if f.least ≤ k ∧ k ≤ f.greatest then positional ds k
        else scientific ds k f.exponentDigits
    String.ofList ((if negative then ['-'] else []) ++ body)

end Decimal

end Chip8
