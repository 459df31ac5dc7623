import Chip8.Calendar
import Chip8.Text.Quoted

/-!
# Failures of Documents

Why a text is refused as a document. Most refusals are alike: the text breaks
the grammar, or asks for something that a configuration cannot be made of. The
others come from scalars whose form fits their type and whose content does
not, or from a reader that cannot go on.

## Main definitions

* `Yaml.Failure`: The causes.
* `Yaml.Failure.message`: The wording, where there is one.
-/

namespace Chip8

namespace Yaml

/-- Why a text is refused. -/
inductive Failure where
  /-- The bytes are not encoded text. -/
  | undecodable
  /-- The text breaks the grammar, or no value can be made of it. -/
  | malformed
  /-- The text ends inside a token. -/
  | unfinished
  /-- An escape names a number that is no character. -/
  | character (code : Nat)
  /-- A scalar marked as an integer is none in its base. -/
  | integer (base : Nat) (text : Text)
  /-- An integer has too many digits. -/
  | tooManyDigits (count : Nat)
  /-- A scalar marked as a fraction is none. -/
  | fraction (text : Text)
  /-- A place in base sixty counts more than any fraction. -/
  | tooLarge
  /-- A scalar marked as a number is empty. -/
  | emptyNumber
  /-- A scalar marked as a truth value is none. -/
  | truth (text : Text)
  /-- A scalar marked as a timestamp is none. -/
  | timestamp
  /-- A date or time is out of range. -/
  | calendar (r : Calendar.Refusal)
  /-- A mapping stands in for a timestamp. -/
  | notText
  /-- A scalar stands for itself, and is followed without end. -/
  | tooDeep
  /-- Any other failure of a reader, with its wording. -/
  | other (wording : String)
  deriving DecidableEq, Repr

/-- The beginning of a text between quotes: no more than 200 characters. -/
def Failure.excerpt (t : Text) : String :=
  String.ofList ((Quoted.write t).toList.take 200)

/-- The wording of a failure. -/
def Failure.message : Failure → String
  | undecodable => ""
  | malformed | unfinished => "Malformed configuration file"
  | character code =>
    if code < 0x80000000 then "chr() arg not in range(0x110000)"
    else "Python int too large to convert to C int"
  | integer base t => s!"invalid literal for int() with base {base}: {excerpt t}"
  | tooManyDigits n =>
    s!"Exceeds the limit (4300 digits) for integer string conversion: value has {n} digits; "
      ++ "use sys.set_int_max_str_digits() to increase the limit"
  | fraction t => s!"could not convert string to float: {Quoted.write t}"
  | tooLarge => "int too large to convert to float"
  | emptyNumber => "string index out of range"
  | truth t => Quoted.write t
  | timestamp => "'NoneType' object has no attribute 'groupdict'"
  | calendar r => r.message
  | notText => "expected string or bytes-like object, got 'list'"
  | tooDeep => "maximum recursion depth exceeded"
  | other wording => wording

end Yaml

end Chip8
