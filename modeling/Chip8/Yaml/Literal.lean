import Chip8.Numeral.Base64
import Chip8.Text.Small
import Chip8.Value
import Chip8.Yaml.Failure
import Chip8.Yaml.Tag

/-!
# Literals

The values of scalars: what a text stands for depends on its tag. Where the
text does not fit the tag, that is a failure of its own, which names the text.

## Main definitions

* `Literal.integer`, `Literal.real`, `Literal.truth`, `Literal.timestamp`,
  `Literal.binary`: The values of texts by kind.
* `Literal.value`: The value of a text by its tag.
-/

namespace Chip8

namespace Yaml

namespace Literal

/-- A text without its underscores, which mean nothing in numbers. -/
def withoutUnderscores (t : Text) : List CodePoint :=
  t.points.filter (· ≠ .char '_')

/-- A sign, and what follows it. -/
def signed (ps : List CodePoint) : Int × List CodePoint :=
  match ps with
  | .char '-' :: r => (-1, r)
  | .char '+' :: r => (1, r)
  | _ => (1, ps)

/-- An integer in a base. -/
def digits (base : Nat) (ps : List CodePoint) : Except Failure Int :=
  match Integer.read base (Text.mk ps).chars with
  | .ok n => .ok n
  | .error .unreadable => .error (.integer base ⟨ps⟩)
  | .error (.tooLong n) => .error (.tooManyDigits n)

/-- The number that places in base sixty make, the first the most
    significant. -/
def sixtieths (places : List Int) : Int :=
  places.foldl (fun n d => 60 * n + d) 0

/-- The integer of a text. -/
def integer (t : Text) : Except Failure Int :=
  let (sign, r) := signed (withoutUnderscores t)
  match r with
  | [] => .error .emptyNumber
  | [.char '0'] => .ok 0
  | .char '0' :: .char 'b' :: r => (digits 2 r).map (sign * ·)
  | .char '0' :: .char 'x' :: r => (digits 16 r).map (sign * ·)
  | .char '0' :: _ => (digits 8 r).map (sign * ·)
  | _ =>
    if r.contains (.char ':') then
      ((Tag.splitAt (.char ':') r).mapM (digits 10)).map (sign * sixtieths ·)
    else (digits 10 r).map (sign * ·)

/-- A fraction without underscores. -/
def fraction (ps : List CodePoint) : Except Failure Float :=
  match Decimal.read (Text.mk ps).chars with
  | some x => .ok x
  | none => .error (.fraction ⟨ps⟩)

/-- The fraction that places in base sixty make, the least significant added
    first. What a place counts has to be within the range of fractions. -/
def sixtiethsReal (places : List Float) : Except Failure Float := do
  let (sum, _) ← places.reverse.foldlM
    (fun (sum, weight) d =>
      let w := Binary64.ofRatio weight 1
      if w.isInf then .error .tooLarge else .ok (sum + d * w, 60 * weight))
    ((0 : Float), (1 : Nat))
  return sum

/-- What is looked at in a fraction: its small letters, without underscores. -/
def fractionPoints (t : Text) : List CodePoint :=
  (Text.mk (withoutUnderscores t)).small.points

/-- Whether a text is the constant that stands for no number. -/
def isNoNumber (t : Text) : Bool :=
  Text.mk (signed (fractionPoints t)).2 = (".nan" : Text)

/-- The fraction of a text. -/
def real (t : Text) : Except Failure Float :=
  let ps := fractionPoints t
  let (sign, r) := signed ps
  let negate (x : Float) : Float := if sign < 0 then -x else x
  if ps.isEmpty then .error .emptyNumber
  else if Text.mk r = (".inf" : Text) then .ok (negate (1 / 0))
  else if isNoNumber t then .ok (0 / 0)
  else if r.contains (.char ':') then
    (((Tag.splitAt (.char ':') r).mapM fraction).bind sixtiethsReal).map negate
  else (fraction r).map negate

/-- The truth value of a text. -/
def truth (t : Text) : Except Failure Bool :=
  let t := t.small
  if ["yes", "true", "on"].any (t = Text.ofString ·) then .ok true
  else if ["no", "false", "off"].any (t = Text.ofString ·) then .ok false
  else .error (.truth t)

/-- The number of decimal digits that are known to be ones. -/
def count (ds : List Char) : Nat :=
  ds.foldl (fun n d => 10 * n + (d.toNat - 48)) 0

/-- The microseconds of the digits behind a decimal point. Further digits are
    dropped. -/
def micros (ds : List Char) : Nat :=
  count ((ds ++ List.replicate 6 '0').take 6)

/-- The date or moment of a text. -/
def timestamp (t : Text) : Except Failure Value :=
  match Tag.stamp? t.chars with
  | none => .error .timestamp
  | some t =>
    let (y, m, d) := (count t.year, count t.month, count t.day)
    let refused {α : Type} (r : Except Calendar.Refusal α) : Except Failure α :=
      r.mapError .calendar
    match t.time with
    | none => (refused (Calendar.Date.make y m d)).map .date
    | some (hour, minute, second, part) =>
      let offset : Option Int :=
        t.zone.map fun z =>
          match z with
          | none => 0
          | some (sign, h, mm) =>
            let minutes : Int := 60 * count h + count mm
            if sign = '-' then -minutes else minutes
      (refused (Calendar.Moment.make y m d (count hour) (count minute) (count second)
        (micros part) offset)).map .moment

/-- The bytes of a text in base sixty-four. Other characters are passed over, but
    only those of seven bits. -/
def binary (t : Text) : Except Failure Value :=
  if t.chars.all (·.toNat < 0x80) then
    match Base64.decode t.chars with
    | some bs => .ok (.bytes bs)
    | none => .error .malformed
  else .error .malformed

/-- The value of a text by its tag. Tags that are not of scalars, or that nothing
    is known of, have none. -/
def value (tag : Tag) (t : Text) : Except Failure Value :=
  match tag with
  | .null => .ok .null
  | .bool => (truth t).map .bool
  | .int => (integer t).map .integer
  | .float => (real t).map .real
  | .timestamp => timestamp t
  | .str => .ok (.text t)
  | .binary => binary t
  | .seq | .map | .set | .omap | .pairs | .merge | .value | .other _ => .error .malformed

end Literal

end Yaml

end Chip8
