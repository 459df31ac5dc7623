/-!
# Base Sixty-Four

Bytes that are written as characters, four characters for three bytes. What is not
in the alphabet is passed over, and so is a padding mark that comes too early. The
marks that fill up a group end the text, whatever stands behind them.

## Main definitions

* `Base64.sextet?`: The six bits of a character.
* `Base64.decode`: The bytes of a text.
-/

namespace Chip8

namespace Base64

/-- The six bits that a character stands for. -/
def sextet? (c : Char) : Option Nat :=
  if 'A' ≤ c ∧ c ≤ 'Z' then some (c.toNat - 65)
  else if 'a' ≤ c ∧ c ≤ 'z' then some (c.toNat - 71)
  else if c.isDigit then some (c.toNat + 4)
  else if c = '+' then some 62
  else if c = '/' then some 63
  else none

/-- The bytes from here on, at a place of a group of four. Of the characters before,
    `left` are the bits that belong to no byte yet, and `marks` is the number of
    padding marks behind them. -/
def decodeFrom (place left marks : Nat) : List Char → Option (List UInt8)
  | [] => if place = 0 then some [] else none
  | '=' :: r =>
    if place < 2 then decodeFrom place left marks r
    else if 4 ≤ place + marks + 1 then some []
    else decodeFrom place left (marks + 1) r
  | c :: r =>
    match sextet? c with
    | none => decodeFrom place left marks r
    | some n =>
      -- The bits of `n` that complete a byte, and those that are left over.
      let unit := 4 ^ (3 - place)
      let rest := decodeFrom ((place + 1) % 4) (n % unit) 0 r
      if place = 0 then rest
      else rest.map (UInt8.ofNat (left * 4 ^ place + n / unit) :: ·)

/-- The bytes of a text, unless it ends inside a group. -/
def decode (s : List Char) : Option (List UInt8) :=
  decodeFrom 0 0 0 s

end Base64

end Chip8
