import Chip8.Fault

/-!
# Bytes

Memory and registers hold bytes; whoever drives the machine hands in integers
of any size. The conversion refuses a list as a whole when one of its members
is no byte.

## Main definitions

* `Bytes.IsByte`: The integers that are bytes.
* `Bytes.ofInts`: A list of integers as bytes.

## Theorems

* `Bytes.ofInts_eq_ok`: A list of bytes converts to itself.
* `Bytes.ofInts_eq_error`: Any other list is refused.
-/

namespace Chip8

namespace Bytes

/-- The integers that a byte can hold. -/
def IsByte (v : Int) : Prop :=
  0 ≤ v ∧ v ≤ 255

instance (v : Int) : Decidable (IsByte v) :=
  inferInstanceAs (Decidable (_ ∧ _))

/-- The byte of an integer, for an integer that is one. -/
def ofInt (v : Int) : UInt8 :=
  UInt8.ofNat v.toNat

/-- The integer that a byte stands for. -/
def toInt (b : UInt8) : Int :=
  b.toNat

/-- A list of integers as bytes, if all of them are. -/
def ofInts (vs : List Int) : Except Fault (List UInt8) :=
  if ∀ v ∈ vs, IsByte v then .ok (vs.map ofInt) else .error (.misuse .notBytes)

/-- Nothing is lost of an integer that is a byte. -/
theorem toInt_ofInt {v : Int} (h : IsByte v) : toInt (ofInt v) = v := by
  obtain ⟨h0, h1⟩ := h
  simp only [toInt, ofInt, UInt8.toNat_ofNat']
  omega

/-- What is read from a byte is always one. -/
theorem isByte_toInt (b : UInt8) : IsByte (toInt b) := by
  have := b.toNat_lt
  simp only [IsByte, toInt]
  omega

theorem ofInts_eq_ok {vs : List Int} (h : ∀ v ∈ vs, IsByte v) :
    ofInts vs = .ok (vs.map ofInt) :=
  if_pos h

/-- One integer that is no byte spoils the whole list, and no byte of it is kept. -/
theorem ofInts_eq_error {vs : List Int} (h : ¬ ∀ v ∈ vs, IsByte v) :
    ofInts vs = .error (.misuse .notBytes) :=
  if_neg h

end Bytes

end Chip8
