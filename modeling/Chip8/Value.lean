import Chip8.Calendar
import Chip8.Numeral.Decimal
import Chip8.Numeral.Integer
import Chip8.Text.Quoted

/-!
# Values

The values that a configuration document is made of. Mappings keep the order
in which their keys came, and hold each key once: a key that comes again keeps
its place and takes the later value. Keys that are equal as numbers are one
key, whether written as integer, fraction or truth value, and so are moments
that are one point in time.

Lists and mappings may be referred to by the place that they have in a
document. That is how a value can hold itself.

Pairs, sets and bytes can occur in a document too, though settings have no use
for them: of them it matters what their type is called, how they are shown and
whether they are the zeros of their types. The members of a set come in the order in
which the host lists them. Of values that the other constructors do not cover
this is all that is kept.

A value is walked through as deep as it goes. A host can follow only so deep, but
how deep is left to whatever reads documents there: values are taken to be within
its reach.

## Main definitions

* `Foreign`: A value of a type that settings have no use for.
* `Value`: The values.
* `Value.kind`: The name of a value's type.
* `Value.insert`, `Value.find?`: Putting an entry in and looking one up.
* `Value.expand`: A value with others in the places that it refers to.
* `Value.shown`: A value as messages and settings show it.
* `Value.isWritable`: Whether it can be shown at all.
-/

namespace Chip8

/-- A value of a type that settings have no use for, such as a row of bytes. -/
structure Foreign where
  /-- The name of its type. -/
  kind : String
  /-- How it is shown inside another value. -/
  spelled : String
  /-- How it is shown on its own. -/
  plain : Text
  /-- Whether it is the zero of its type. -/
  isZero : Bool
  deriving DecidableEq, Repr

/-- The values of a configuration document. -/
inductive Value where
  | null
  | bool (b : Bool)
  | integer (n : Int)
  | real (x : Float)
  | text (t : Text)
  | date (d : Calendar.Date)
  | moment (t : Calendar.Moment)
  | list (items : List Value)
  /-- A fixed number of values in a row. -/
  | tuple (items : List Value)
  | set (members : List Value)
  | mapping (entries : List (Value × Value))
  | foreign (x : Foreign)
  /-- The list or mapping at a place of the document. -/
  | shared (isMapping : Bool) (place : Nat)
  deriving Inhabited

namespace Value

/-- The entries of a mapping, in the order of their keys. -/
abbrev Entries := List (Value × Value)

/-- The name of a value's type. -/
def kind : Value → String
  | null => "NoneType"
  | bool _ => "bool"
  | integer _ => "int"
  | real _ => "float"
  | text _ => "str"
  | date _ => "date"
  | moment _ => "datetime"
  | list _ => "list"
  | tuple _ => "tuple"
  | set _ => "set"
  | mapping _ => "dict"
  | foreign x => x.kind
  | shared isMapping _ => if isMapping then "dict" else "list"

/-! ### Entries -/

/-- The integer that a value is equal to as a number. -/
def integral? : Value → Option Int
  | bool b => some (if b then 1 else 0)
  | integer n => some n
  | real x =>
    match Binary64.parts x with
    | .finite negative m e =>
      let (n, d) := Binary64.scale m 1 e
      if n % d = 0 then some (if negative then -(n / d) else n / d) else none
    | _ => none
  | _ => none

/-- Whether two values are one key. Lists, sets and mappings are no keys. -/
def sameKey (a b : Value) : Bool :=
  match a.integral?, b.integral? with
  | some m, some n => m == n
  | none, none =>
    match a, b with
    | null, null => true
    | real x, real y => x == y
    | text s, text t => s == t
    | date d, date e => d == e
    | moment s, moment t => s.isSame t
    | foreign x, foreign y => x == y
    | _, _ => false
  | _, _ => false

/-- Put an entry in, where `same` tells which keys are one. A key that is
    there keeps its place and its spelling. -/
def insertBy {κ ν : Type} (same : κ → κ → Bool) (k : κ) (v : ν) : List (κ × ν) → List (κ × ν)
  | [] => [(k, v)]
  | (k', v') :: rest =>
    if same k k' then (k', v) :: rest else (k', v') :: insertBy same k v rest

/-- Put an entry in. -/
def insert (k v : Value) (es : Entries) : Entries :=
  insertBy sameKey k v es

/-- Entries put in one after the other. -/
def ofEntries (es : Entries) : Entries :=
  es.foldl (fun acc (k, v) => insert k v acc) []

/-- The value under a name. -/
def find? (name : String) : Entries → Option Value
  | [] => none
  | (text t, v) :: rest => if t = (name : Text) then some v else find? name rest
  | _ :: rest => find? name rest

/-- A row of bytes. -/
def bytes (bs : List UInt8) : Value :=
  .foreign ⟨"bytes", Quoted.writeBytes bs, Quoted.writeBytes bs, bs.isEmpty⟩

/-- Whether a document counts as empty: nothing, or a zero of its type. -/
def isEmpty : Value → Bool
  | null => true
  | bool b => !b
  | integer n => n == 0
  | real x => x == 0
  | text t => t.isEmpty
  | list xs | tuple xs | set xs => xs.isEmpty
  | mapping es => es.isEmpty
  | foreign x => x.isZero
  | date _ | moment _ | shared _ _ => false

/-! ### References -/

mutual

/-- A value with what `look` has for the places that it refers to. -/
def expand (look : Bool → Nat → Value) : Value → Value
  | shared isMapping place => look isMapping place
  | list xs => .list (expandItems look xs)
  | tuple xs => .tuple (expandItems look xs)
  | set xs => .set (expandItems look xs)
  | mapping es => .mapping (expandEntries look es)
  | v => v

/-- The same for the items of a list. -/
def expandItems (look : Bool → Nat → Value) : List Value → List Value
  | [] => []
  | x :: xs => expand look x :: expandItems look xs

/-- The same for the entries of a mapping. -/
def expandEntries (look : Bool → Nat → Value) : List (Value × Value) → List (Value × Value)
  | [] => []
  | (k, v) :: es => (expand look k, expand look v) :: expandEntries look es

end

/-! ### Text -/

/-- How fractions are shown: digits from 0.0001 up to sixteen places before
    the point, an exponent of at least two digits otherwise. -/
def realLayout : Decimal.Layout where
  least := -4
  greatest := 15
  exponentDigits := 2

/-- Shown values in a row, between brackets. -/
def row (opening closing : String) (items : List String) : String :=
  opening ++ ", ".intercalate items ++ closing

/-- The shown values of a tuple. A single one has a comma behind it. -/
def tupleRow : List String → String
  | [x] => "(" ++ x ++ ",)"
  | items => row "(" ")" items

/-- The shown members of a set. Braces with nothing in them are a mapping. -/
def setRow : List String → String
  | [] => "set()"
  | members => row "\x7b" "\x7d" members

mutual

/-- A value inside another one: texts stand between quotes. A reference is
    shown by dots. -/
def inner : Value → String
  | null => "None"
  | bool b => if b then "True" else "False"
  | integer n => toString n
  | real x => Decimal.write realLayout x
  | text t => Quoted.write t
  | date d => d.spelled
  | moment t => t.spelled
  | list xs => row "[" "]" (innerItems xs)
  | tuple xs => tupleRow (innerItems xs)
  | set xs => setRow (innerItems xs)
  | mapping es => row "\x7b" "\x7d" (innerEntries es)
  | foreign x => x.spelled
  | shared isMapping _ => if isMapping then "\x7b...\x7d" else "[...]"

/-- The items of a list. -/
def innerItems : List Value → List String
  | [] => []
  | x :: xs => inner x :: innerItems xs

/-- The entries of a mapping. -/
def innerEntries : List (Value × Value) → List String
  | [] => []
  | (k, v) :: es => (inner k ++ ": " ++ inner v) :: innerEntries es

end

/-- A value on its own: texts and times are shown plainly. -/
def shown : Value → Text
  | text t => t
  | date d => d.plain
  | moment t => t.plain
  | foreign x => x.plain
  | v => v.inner

mutual

/-- Whether all integers in a value are short enough to be written. -/
def isWritable : Value → Bool
  | integer n => Integer.isWritable n
  | list xs | tuple xs | set xs => areItemsWritable xs
  | mapping es => areEntriesWritable es
  | _ => true

/-- The same for the items of a list. -/
def areItemsWritable : List Value → Bool
  | [] => true
  | x :: xs => isWritable x && areItemsWritable xs

/-- The same for the entries of a mapping. -/
def areEntriesWritable : List (Value × Value) → Bool
  | [] => true
  | (k, v) :: es => isWritable k && isWritable v && areEntriesWritable es

end

end Value

end Chip8
