import Chip8.Numeral.Digit

/-!
# Integer Numerals

An integer is written as digits after an optional sign, with blanks around it.
Single underscores may stand between digits. In bases two, eight and sixteen a
mark (`0b`, `0o`, `0x`) may come first, and one underscore after it.

Numerals in other bases are limited to 4300 digits, leading zeros included.
The digits are counted before what follows them is looked at, so too many of
them are complained of even if the text is no numeral as a whole. The same
limit holds when an integer is written in decimal.

## Main definitions

* `Integer.Refusal`: Why a text is no numeral.
* `Integer.read`: The integer of a numeral in a base.
* `Integer.isWritable`: The integers within the limit.
-/

namespace Chip8

namespace Integer

/-- The most digits of a numeral in a base that is no power of two. -/
def maxDigits : Nat := 4300

/-- Why a text is refused. -/
inductive Refusal where
  /-- It is not written as an integer. -/
  | unreadable
  /-- It has more digits than the limit. -/
  | tooLong (digits : Nat)
  deriving DecidableEq, Repr

/-- The leading digits of a text, with single underscores between them, and
    the rest. An underscore before anything but a digit spoils them. -/
def spanDigits (base : Nat) : List Char → Option (List Nat × List Char)
  | [] => some ([], [])
  | '_' :: c :: r => do
    let d ← Digit.ofBase base c
    let (ds, rest) ← spanDigits base r
    return (d :: ds, rest)
  | c :: r =>
    match Digit.ofBase base c with
    | some d => do
      let (ds, rest) ← spanDigits base r
      return (d :: ds, rest)
    | none => if c = '_' then none else some ([], c :: r)

/-- The leading digits of a text, at least one, and the rest. -/
def leadingDigits (base : Nat) (s : List Char) : Option (List Nat × List Char) :=
  if s.head? = some '_' then none else (spanDigits base s).filter (!·.1.isEmpty)

/-- A sign, and what follows it. -/
def sign : List Char → Int × List Char
  | '-' :: r => (-1, r)
  | '+' :: r => (1, r)
  | r => (1, r)

/-- The letters of the base mark. -/
def isMark (base : Nat) (c : Char) : Bool :=
  match base with
  | 2 => c == 'b' || c == 'B'
  | 8 => c == 'o' || c == 'O'
  | 16 => c == 'x' || c == 'X'
  | _ => false

/-- A text without its base mark and the underscore after it. The zero of the
    mark may be that of any script. -/
def unmarked (base : Nat) (s : List Char) : List Char :=
  match s with
  | z :: c :: r =>
    if Digit.decimal z = some 0 ∧ isMark base c then
      match r with
      | '_' :: r => r
      | _ => r
    else s
  | _ => s

/-- Whether a base is a power of two. Its numerals have no limit. -/
def isBinary (base : Nat) : Bool :=
  base &&& (base - 1) == 0

/-- The integer of a numeral. -/
def read (base : Nat) (s : List Char) : Except Refusal Int :=
  let (sgn, r) := sign (s.dropWhile Digit.isBlank)
  match leadingDigits base (unmarked base r) with
  | none => .error .unreadable
  | some (ds, rest) =>
    if !isBinary base && maxDigits < ds.length then .error (.tooLong ds.length)
    else if rest.all Digit.isBlank then .ok (sgn * Digit.value base ds)
    else .error .unreadable

/-- Whether an integer can be written in decimal within the limit. -/
def isWritable (n : Int) : Bool :=
  n.natAbs < Nat.pow 10 maxDigits

end Integer

end Chip8
