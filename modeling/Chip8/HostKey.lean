import Chip8.Settings
import Chip8.Settings.Refusal
import Chip8.Text.Capital

/-!
# Host Keys

The keys of the host have names and codes, and the host says which. A name is
looked up as it is and then in capitals, so that with the usual names `q` and
`f1` name keys, but `space` does not: there is a `Space` and no `SPACE`.

The host keys that stand for logical keys are listed in order. Where two
logical keys have one host key, the later one in the list has it.

## Main definitions

* `KeyNames`: The names and codes of a host.
* `HostKey.table`: Those of a small keyboard.
* `HostKey.code?`: The code of a name.
* `Bindings`: Logical keys with the codes of their host keys.
* `Bindings.translate`: The logical key of a code.
-/

namespace Chip8

/-- The names that a host has for its keys, each with the code of the key. Whatever reads
    names takes those of the host that it runs on. -/
class KeyNames where
  code? : Text → Option Nat

namespace HostKey

/-- The codes of the function keys start here. -/
def functionBase : Nat := 0x1000030

/-- The keys with names of their own. -/
def named : List (String × Nat) :=
  [("Space", 0x20), ("Asterisk", 0x2A), ("Plus", 0x2B), ("Comma", 0x2C), ("Minus", 0x2D),
   ("Period", 0x2E), ("Slash", 0x2F), ("Semicolon", 0x3B), ("Escape", 0x1000000),
   ("Tab", 0x1000001), ("Backtab", 0x1000002), ("Backspace", 0x1000003), ("Return", 0x1000004),
   ("Enter", 0x1000005), ("Insert", 0x1000006), ("Delete", 0x1000007), ("Home", 0x1000010),
   ("End", 0x1000011), ("Left", 0x1000012), ("Up", 0x1000013), ("Right", 0x1000014),
   ("Down", 0x1000015), ("PageUp", 0x1000016), ("PageDown", 0x1000017), ("Shift", 0x1000020),
   ("Control", 0x1000021), ("Meta", 0x1000022), ("Alt", 0x1000023), ("CapsLock", 0x1000024)]

/-- The keys of a small keyboard: digits and capital letters by their characters,
    the function keys, and the keys with names of their own. -/
def table : List (String × Nat) :=
  ("0123456789ABCDEFGHIJKLMNOPQRSTUVWXYZ".toList.map fun c => (String.singleton c, c.toNat))
    ++ ((List.range 12).map fun k => ("F" ++ toString (k + 1), functionBase + k))
    ++ named

/-- A host with a small keyboard. It is the one to take where nothing is said of
    the host; others have names for more keys. -/
instance : KeyNames :=
  ⟨fun name => name.string?.bind fun n => table.lookup n⟩

/-- The code of a name, as it is or in capitals. -/
def code? [KeyNames] (name : Text) : Option Nat :=
  (KeyNames.code? name).or (KeyNames.code? name.capital)

/-- The code of a name that has to be one. -/
def code [KeyNames] (name : Text) : Except Settings.Refusal Nat :=
  match code? name with
  | some n => .ok n
  | none => (Settings.Refusal.keyName name).raise

end HostKey

/-- Logical keys with the codes of their host keys. -/
structure Bindings where
  codes : List (Int × Nat)
  deriving DecidableEq, Repr

namespace Bindings

/-- Give a logical key another name. A key that is listed keeps its place. -/
def rename (key : Int) (name : Text) : List (Int × Text) → List (Int × Text)
  | [] => [(key, name)]
  | (k, n) :: rest => if k = key then (key, name) :: rest else (k, n) :: rename key name rest

/-- Each logical key once, in the place where it comes first and with the name
    that comes last. -/
def distinct (names : List (Int × Text)) : List (Int × Text) :=
  names.foldl (fun acc (k, n) => rename k n acc) []

/-- The bindings of a list of logical keys with names. -/
def ofNames [KeyNames] (names : List (Int × Text)) : Except Settings.Refusal Bindings := do
  return ⟨← names.mapM fun (k, n) => do return (k, ← HostKey.code n)⟩

/-- The bindings of a layout. -/
def ofLayout [KeyNames] (l : Layout) : Except Settings.Refusal Bindings :=
  ofNames (l.entries.map fun (k, n) => (k.val, n))

/-- The logical key of a code: the last one that is bound to it. -/
def translate (b : Bindings) (code : Int) : Option Int :=
  (b.codes.reverse.find? fun (_, c) => c = code).map Prod.fst

end Bindings

end Chip8
