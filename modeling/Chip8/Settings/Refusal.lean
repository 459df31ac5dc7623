import Chip8.Value

/-!
# Refused Settings

Why a document, or a choice on the command line, makes no settings.

The wording of a refusal names the values that caused it. Where one of these
holds an integer too long to be written in decimal, there is no such wording,
and the length is what is complained of instead.

## Main definitions

* `Refusal`: The causes.
* `Refusal.message`: The wording.
* `Refusal.raise`: A refusal, or the complaint about its wording.
-/

namespace Chip8

namespace Settings

/-- Why there are no settings. -/
inductive Refusal where
  /-- The document is no mapping. -/
  | rootKind (kind : String)
  /-- A section is no mapping. -/
  | sectionKind (name kind : String)
  /-- A value that has to be an integer is none. -/
  | notInteger (v : Value)
  /-- The scale is not positive. -/
  | scale (n : Int)
  /-- One of the rates is not positive. -/
  | rates (cycles frames : Int)
  /-- No mode has this name. -/
  | timerMode (v : Value)
  /-- No logical key has this number. -/
  | keyNumber (v : Value)
  /-- No host key has this name. -/
  | keyName (name : Text)
  /-- An option of the command line is not positive. -/
  | option (name : String) (n : Int)
  /-- An integer is too long to be written. -/
  | unwritable

namespace Refusal

/-- The wording of a refusal. -/
def message : Refusal → Text
  | rootKind k => s!"Configuration root must be a mapping, got {k}"
  | sectionKind n k => s!"'{n}' section must be a mapping, got {k}"
  | notInteger v => "Invalid integer format: " ++ v.shown
  | scale n => s!"display.scale must be positive: {n}"
  | rates c f =>
    s!"timing rates must be positive: cycles_per_second={c}, frames_per_second={f}"
  | timerMode v => "Unknown timer_mode '" ++ v.shown ++ "'"
  | keyNumber v => "keymap key " ++ v.shown ++ " out of range (0-15)"
  | keyName n => "Unknown host key name '" ++ n ++ "'"
  | option name n => s!"{name} must be positive: {n}"
  | unwritable =>
    "Exceeds the limit (4300 digits) for integer string conversion; "
      ++ "use sys.set_int_max_str_digits() to increase the limit"

/-- Whether all integers of the wording are short enough. -/
def isWritable : Refusal → Bool
  | notInteger v | timerMode v | keyNumber v => v.isWritable
  | scale n | option _ n => Integer.isWritable n
  | rates c f => Integer.isWritable c && Integer.isWritable f
  | rootKind _ | sectionKind _ _ | keyName _ | unwritable => true

/-- Refuse, or complain about the wording if there is none. -/
def raise {α : Type} (r : Refusal) : Except Refusal α :=
  .error (if r.isWritable then r else .unwritable)

end Refusal

end Settings

end Chip8
