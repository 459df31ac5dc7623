import Chip8.Text.Basic

/-!
# Tags

The tag of a node says what kind of value it is. A plain scalar without a tag
gets one by its form, in the rules of YAML 1.1: `010` is an integer in base
eight, `1:30` one in base sixty, `off` a truth value, `2020-01-01` a date.

## Main definitions

* `Tag`: The tags that a document can be made of, and the rest.
* `Tag.ofName`: The tag of a full name.
* `Tag.ofPlain`: The tag of a plain scalar.
-/

namespace Chip8

namespace Yaml

/-- What kind of value a node is. -/
inductive Tag where
  | null
  | bool
  | int
  | float
  | timestamp
  | str
  /-- Bytes in base sixty-four. -/
  | binary
  | seq
  | map
  | set
  /-- Mappings of one entry each, taken for pairs in an order. -/
  | omap
  /-- The same. -/
  | pairs
  /-- The key that merges other mappings into its own. -/
  | merge
  /-- The key that stands for a mapping as a whole. -/
  | value
  | other (name : String)
  deriving DecidableEq, Repr

namespace Tag

/-- What the names of the standard tags begin with. -/
def standard : String := "tag:yaml.org,2002:"

/-- The tag of a full name. -/
def ofName (name : String) : Tag :=
  if name = standard ++ "null" then null
  else if name = standard ++ "bool" then bool
  else if name = standard ++ "int" then int
  else if name = standard ++ "float" then float
  else if name = standard ++ "timestamp" then timestamp
  else if name = standard ++ "str" then str
  else if name = standard ++ "binary" then binary
  else if name = standard ++ "seq" then seq
  else if name = standard ++ "map" then map
  else if name = standard ++ "set" then set
  else if name = standard ++ "omap" then omap
  else if name = standard ++ "pairs" then pairs
  else if name = standard ++ "merge" then merge
  else if name = standard ++ "value" then value
  else other name

/-! ### Forms of plain scalars -/

/-- A text without the line end behind it, which no form takes notice of. -/
def body (s : List Char) : List Char :=
  if s.getLast? = some '\n' then s.dropLast else s

/-- A text without its sign. -/
def unsigned : List Char → List Char
  | '+' :: r => r
  | '-' :: r => r
  | r => r

/-- Digits of a class with underscores among them, at least one character. -/
def areDigits (p : Char → Bool) (s : List Char) : Bool :=
  !s.isEmpty && s.all fun c => p c || c = '_'

/-- Digits below a base. -/
def isBelow (base : Nat) (c : Char) : Bool :=
  c.isDigit && c.toNat - 48 < base

/-- Digits in base sixteen. -/
def isHex (c : Char) : Bool :=
  c.isDigit || ('a' ≤ c && c ≤ 'f') || ('A' ≤ c && c ≤ 'F')

/-- The parts of a list between the elements that are `mark`. -/
def splitAt {α : Type} [DecidableEq α] (mark : α) (s : List α) : List (List α) :=
  s.foldr
    (fun c acc =>
      if c = mark then [] :: acc
      else
        match acc with
        | p :: ps => (c :: p) :: ps
        | [] => [[c]])
    [[]]

/-- The parts of a text between colons. -/
def parts (s : List Char) : List (List Char) :=
  splitAt ':' s

/-- A place in base sixty: one digit, or two of which the first is below six. -/
def isSixtieth : List Char → Bool
  | [a] => a.isDigit
  | [a, b] => isBelow 6 a && b.isDigit
  | _ => false

/-- A decimal that does not begin with a zero. -/
def isDecimal : List Char → Bool
  | c :: r => c.isDigit && c ≠ '0' && r.all fun c => c.isDigit || c = '_'
  | [] => false

/-- Integers: in base two, eight, sixteen or ten, or in base sixty. -/
def isInt (s : List Char) : Bool :=
  match unsigned s with
  | ['0'] => true
  | '0' :: r =>
    areDigits (isBelow 8) r
      || (r.head? == some 'b' && areDigits (isBelow 2) r.tail)
      || (r.head? == some 'x' && areDigits isHex r.tail)
  | r =>
    match parts r with
    | [p] => isDecimal p
    | p :: ps => isDecimal p && ps.all isSixtieth
    | [] => false

/-- The exponent of a fraction, which has a sign: all that remains, or
    nothing. -/
def isExponent : List Char → Bool
  | [] => true
  | e :: s :: r =>
    (e = 'e' || e = 'E') && (s = '+' || s = '-') && !r.isEmpty && r.all Char.isDigit
  | _ => false

/-- Whether a text begins with a digit and goes on with digits. -/
def isCount : List Char → Bool
  | c :: r => c.isDigit && r.all fun c => c.isDigit || c = '_'
  | [] => false

/-- Fractions: with a point, with a point in base sixty, or named. Those that
    begin with their point take no sign. -/
def isFloat (s : List Char) : Bool :=
  let r := unsigned s
  let whole := r.takeWhile (· ≠ '.')
  match r.dropWhile (· ≠ '.') with
  | [] => false
  | _ :: tail =>
    let exponent := tail.dropWhile fun c => c.isDigit || c = '_'
    if whole.isEmpty then
      let names := ["inf", "Inf", "INF"].map String.toList
      names.contains tail
        || (s == r
          && ((tail.head?.any Char.isDigit && isExponent exponent)
            || (["nan", "NaN", "NAN"].map String.toList).contains tail))
    else
      match parts whole with
      | [p] => isCount p && isExponent exponent
      | p :: ps => isCount p && ps.all isSixtieth && exponent.isEmpty
      | [] => false

/-- Truth values. -/
def isBool (s : List Char) : Bool :=
  (["yes", "Yes", "YES", "no", "No", "NO", "true", "True", "TRUE", "false", "False", "FALSE",
    "on", "On", "ON", "off", "Off", "OFF"].map String.toList).contains s

/-- Ways to write nothing. -/
def isNull (s : List Char) : Bool :=
  (["~", "null", "Null", "NULL"].map String.toList).contains s

/-- The numbers of a timestamp, as written. -/
structure Stamp where
  year : List Char
  month : List Char
  day : List Char
  /-- Hour, minute, second and fraction. -/
  time : Option (List Char × List Char × List Char × List Char)
  /-- Nothing, universal time, or a sign with hours and minutes. -/
  zone : Option (Option (Char × List Char × List Char))

/-- Up to `n` leading digits of a text, and the rest. -/
def takeDigits : Nat → List Char → List Char × List Char
  | 0, r => ([], r)
  | n + 1, c :: r =>
    if c.isDigit then
      let (ds, r) := takeDigits n r
      (c :: ds, r)
    else ([], c :: r)
  | _ + 1, [] => ([], [])

/-- A zone: nothing, universal time, or an offset. -/
def stampZone (s : List Char) : Option (Option (Option (Char × List Char × List Char))) :=
  match s with
  | [] => some none
  | _ =>
    match s.dropWhile fun c => c = ' ' || c = '\t' with
    | ['Z'] => some (some none)
    | c :: r =>
      if c = '+' ∨ c = '-' then
        match takeDigits 2 r with
        | ([], _) => none
        | (h, []) => some (some (some (c, h, [])))
        | (h, ':' :: r) =>
          match takeDigits 2 r with
          | ([a, b], []) => some (some (some (c, h, [a, b])))
          | _ => none
        | _ => none
      else none
    | [] => none

/-- The time of day of a timestamp, and its zone. -/
def stampTime (s : List Char) :
    Option ((List Char × List Char × List Char × List Char)
      × Option (Option (Char × List Char × List Char))) := do
  let (h, r) := takeDigits 2 s
  guard !h.isEmpty
  let ':' :: r := r | none
  let ([m1, m2], r) := takeDigits 2 r | none
  let ':' :: r := r | none
  let ([s1, s2], r) := takeDigits 2 r | none
  let (fraction, r) :=
    match r with
    | '.' :: r => (r.takeWhile Char.isDigit, r.dropWhile Char.isDigit)
    | _ => ([], r)
  let zone ← stampZone r
  return ((h, [m1, m2], [s1, s2], fraction), zone)

/-- A timestamp as written: a date, or a date with a time of day. -/
def stamp? (s : List Char) : Option Stamp := do
  let (y, r) := takeDigits 4 (body s)
  guard (y.length = 4)
  let '-' :: r := r | none
  let (m, r) := takeDigits 2 r
  guard !m.isEmpty
  let '-' :: r := r | none
  let (d, r) := takeDigits 2 r
  guard !d.isEmpty
  match r with
  | [] => return ⟨y, m, d, none, none⟩
  | c :: r =>
    let rest ←
      if c = 'T' ∨ c = 't' then some r
      else if c = ' ' ∨ c = '\t' then some (r.dropWhile fun c => c = ' ' || c = '\t')
      else none
    let (time, zone) ← stampTime rest
    return ⟨y, m, d, some time, zone⟩

/-- Timestamps. A date alone has two digits for month and day. -/
def isTimestamp (s : List Char) : Bool :=
  match stamp? s with
  | none => false
  | some t => t.time.isSome || (t.month.length = 2 && t.day.length = 2)

/-- The tag of a plain scalar. Halves of characters occur in no form. -/
def ofPlain (text : Text) : Tag :=
  let s := body text.chars
  if text.isEmpty then null
  else if isBool s then bool
  else if isFloat s then float
  else if isInt s then int
  else if s = "<<".toList then merge
  else if isNull s then null
  else if isTimestamp s then timestamp
  else if s = "=".toList then value
  else if s = "!".toList ∨ s = "&".toList ∨ s = "*".toList then other (standard ++ "yaml")
  else str

end Tag

end Yaml

end Chip8
