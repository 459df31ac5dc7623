import Chip8.Yaml.Failure

/-!
# Taking a File in

A file is not read as a whole before it is looked at. Its bytes are decoded in
blocks, and its characters are handed over in portions: two at the start, and
another one whenever the text so far does not suffice. So what is wrong far
behind in a file, bytes that are no text or a character that no document may
hold, is only met by one who gets that far.

Line ends of any system count as line feeds.

## Main definitions

* `Intake`: The characters that can be had, and what is met behind them.
* `Intake.Stream`: The state between two blocks.
* `Intake.ofBytes`: The intake of a file.
-/

namespace Chip8

namespace Yaml

/-- The characters that can be had of a file. -/
structure Intake where
  text : List Char
  /-- What is met behind them. Nothing is met behind the last of the file. -/
  beyond : Option Failure

namespace Intake

/-! ### Bytes to characters -/

/-- The second byte of a character, behind its first. Characters are written
    as short as possible, and halves of characters and numbers above U+10FFFF
    are not written. -/
def isSecond (first second : UInt8) : Bool :=
  let least := if first = 0xE0 then 0xA0 else if first = 0xF0 then 0x90 else 0x80
  let greatest := if first = 0xED then 0x9F else if first = 0xF4 then 0x8F else 0xBF
  least ≤ second && second ≤ greatest

/-- Whether bytes are the beginning of a character and not all of it. -/
def isBeginning (bytes : List UInt8) : Bool :=
  match bytes with
  | [a] => 0xC2 ≤ a && a ≤ 0xF4
  | [a, b] => 0xE0 ≤ a && a ≤ 0xF4 && isSecond a b
  | [a, b, c] => 0xF0 ≤ a && a ≤ 0xF4 && isSecond a b && 0x80 ≤ c && c ≤ 0xBF
  | _ => false

/-- The characters of some bytes, and the beginning of another one if they end
    with it. -/
def decode (bytes : ByteArray) : Option (List Char × ByteArray) :=
  [0, 1, 2, 3].findSome? fun k => do
    let cut := bytes.size - k
    let tail := bytes.extract cut bytes.size
    guard (tail.size = k ∧ (k = 0 ∨ isBeginning tail.toList))
    let s ← String.fromUTF8? (bytes.extract 0 cut)
    return (s.toList, tail)

/-- Line ends of any system as line feeds. -/
def unifyBreaks : List Char → List Char
  | [] => []
  | '\r' :: '\n' :: r => '\n' :: unifyBreaks r
  | '\r' :: r => '\n' :: unifyBreaks r
  | c :: r => c :: unifyBreaks r

/-! ### Blocks -/

/-- The state between two blocks. -/
structure Stream where
  bytes : ByteArray
  /-- How many bytes have been taken. -/
  offset : Nat
  /-- The beginning of a character at the end of the last block. -/
  tail : ByteArray
  /-- Whether the last block ended with a carriage return, whose line feed may
      still follow. -/
  carriage : Bool
  /-- The characters that nobody has asked for yet. -/
  ready : List Char
  /-- The bytes and the characters of the last block. -/
  blockBytes : Nat
  blockChars : Nat

namespace Stream

/-- The state before the first block. -/
def start (bytes : ByteArray) : Stream :=
  ⟨bytes, 0, .empty, false, [], 0, 1⟩

/-- The bytes of a block that is to yield so many characters, if it goes on
    like the last one. No block is planned with less than 8192. -/
def blockSize (s : Stream) (wanted : Nat) : Nat :=
  max 8192 (s.blockBytes * wanted / s.blockChars)

/-- Take the next block. The last one is empty. -/
def advance (s : Stream) (wanted : Nat) : Option Stream := do
  let block := s.bytes.extract s.offset (s.offset + s.blockSize wanted)
  let isLast := block.size = 0
  let (cs, tail) ← decode (s.tail ++ block)
  guard !(isLast && tail.size ≠ 0)
  let cs := if s.carriage && (isLast || !cs.isEmpty) then '\r' :: cs else cs
  let carriage := !isLast && cs.getLast? = some '\r'
  let cs := unifyBreaks (if carriage then cs.dropLast else cs)
  return { s with
    offset := s.offset + block.size
    tail := tail
    carriage := carriage || (s.carriage && cs.isEmpty && !isLast)
    ready := s.ready ++ cs
    blockBytes := if cs.isEmpty then 0 else block.size
    blockChars := max 1 cs.length }

/-- Take blocks until so many characters are ready, or the file ends. Each
    block but the last takes a byte. -/
def prepare (wanted : Nat) : Nat → Stream → Option Stream
  | 0, s => some s
  | fuel + 1, s =>
    if wanted ≤ s.ready.length then some s
    else do
      let next ← s.advance (wanted - s.ready.length)
      if next.offset = s.offset ∧ next.ready.length = s.ready.length then return next
      else prepare wanted fuel next

/-- The next characters, so many unless the file ends before. -/
def take (wanted : Nat) (s : Stream) : Option (List Char × Stream) := do
  let s ← prepare wanted (s.bytes.size + 2) s
  return (s.ready.take wanted, { s with ready := s.ready.drop wanted })

end Stream

/-! ### Portions -/

/-- The characters that a document may hold. -/
def isAllowed (c : Char) : Bool :=
  let n := c.toNat
  n == 0x09 || n == 0x0A || n == 0x0D || (0x20 ≤ n && n ≤ 0x7E) || n == 0x85
    || (0xA0 ≤ n && n ≤ 0xD7FF) || (0xE000 ≤ n && n ≤ 0xFFFD) || 0x10000 ≤ n

/-- How many characters are asked for at a time. -/
def portionSize : Nat := 4096

/-- So many portions in a row. -/
def takePortions : Nat → Stream → Option (List Char × Stream)
  | 0, s => some ([], s)
  | count + 1, s => do
    let (cs, s) ← s.take portionSize
    let (more, s) ← takePortions count s
    return (cs ++ more, s)

/-- Hand over portions, so many at once, and then one by one. -/
def portions (count : Nat) : Nat → Stream → Intake
  | 0, _ => ⟨[], none⟩
  | fuel + 1, s =>
    match takePortions count s with
    | none => ⟨[], some .undecodable⟩
    | some (cs, s) =>
      if cs.isEmpty then ⟨[], none⟩
      else if !cs.all isAllowed then ⟨[], some .malformed⟩
      else
        let rest := portions 1 fuel s
        { rest with text := cs ++ rest.text }

/-- The intake of a file. Each portion but the last takes a character. -/
def ofBytes (bytes : ByteArray) : Intake :=
  portions 2 (bytes.size + 2) (.start bytes)

end Intake

end Yaml

end Chip8
