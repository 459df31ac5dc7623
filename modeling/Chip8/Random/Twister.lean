import Chip8.Random

/-!
# The Mersenne Twister

The generator MT19937: a linear recurrence over 624 words of 32 bits whose
outputs are scrambled ("tempered") state words. The state is set from a key of
words; a seed of any size becomes a key by cutting its absolute value into
words, least significant first.

A byte is drawn by taking the upper nine bits of an output and drawing again
while they exceed 255, that is, while the topmost bit is set. The topmost bits
obey a linear recurrence of order 19937 whose polynomial has no root at one,
so a run of set ones is never longer than that, and a supply of 20000 outputs
always holds a byte.

## Main definitions

* `Twister`: The 624 words and the position of the next output.
* `Twister.ofKey`, `Twister.ofSeed`: Setting the state.
* `Twister.output`: One word of output.
* `Twister.byte`: One byte.
-/

namespace Chip8

/-- The words of the recurrence, and how many of them have been put out. -/
structure Twister where
  words : Array UInt32
  position : Nat
  deriving DecidableEq

namespace Twister

/-- The number of words. -/
def size : Nat := 624

/-- How far the recurrence reaches ahead. -/
def shift : Nat := 397

/-- The word at a place, zero outside the state. -/
def word (ws : Array UInt32) (i : Nat) : UInt32 :=
  ws.getD i 0

/-- The state of a single seed word: each word is made from the one before. -/
def seedWords (s : UInt32) : Array UInt32 :=
  (List.range (size - 1)).foldl
    (fun ws k =>
      let w := word ws k
      ws.push ((w ^^^ (w >>> 30)) * 1812433253 + UInt32.ofNat (k + 1)))
    #[s]

/-- A place in the state and one in the key, moving together while the state
    is mixed. -/
structure Cursor where
  words : Array UInt32
  i : Nat
  j : Nat

/-- The place after `i`. Behind the last word the first becomes a copy of the
    last and is passed over. -/
def past (ws : Array UInt32) (i : Nat) : Array UInt32 × Nat :=
  if size ≤ i + 1 then
    let last := word ws (size - 1)
    (ws.setIfInBounds 0 last, 1)
  else
    (ws, i + 1)

/-- Mix one word of the key into the state. -/
def absorb (key : Array UInt32) (c : Cursor) : Cursor :=
  let before := word c.words (c.i - 1)
  let mixed := (word c.words c.i ^^^ ((before ^^^ (before >>> 30)) * 1664525))
    + word key c.j + UInt32.ofNat c.j
  let (ws, i) := past (c.words.setIfInBounds c.i mixed) c.i
  ⟨ws, i, if key.size ≤ c.j + 1 then 0 else c.j + 1⟩

/-- Mix one word of the state with its place. -/
def settle (c : Cursor) : Cursor :=
  let before := word c.words (c.i - 1)
  let mixed := (word c.words c.i ^^^ ((before ^^^ (before >>> 30)) * 1566083941))
    - UInt32.ofNat c.i
  let (ws, i) := past (c.words.setIfInBounds c.i mixed) c.i
  ⟨ws, i, c.j⟩

/-- Apply a step `n` times. -/
def iterate {α : Type} (f : α → α) : Nat → α → α
  | 0, a => a
  | n + 1, a => iterate f n (f a)

/-- The state of a key. Every word of the key is mixed in at least once. -/
def ofKey (key : Array UInt32) : Twister :=
  let start : Cursor := ⟨seedWords 19650218, 1, 0⟩
  let absorbed := iterate (absorb key) (max size key.size) start
  let settled := iterate settle (size - 1) absorbed
  ⟨settled.words.setIfInBounds 0 0x80000000, size⟩

/-- The words of a number, least significant first; zero has one word. -/
def wordsOf (n : Nat) : Array UInt32 :=
  let count := max 1 ((n.log2 + 32) / 32)
  Array.ofFn fun k : Fin count => UInt32.ofNat (n >>> (32 * k.val) % 4294967296)

/-- The state of a seed. The sign of the seed plays no part. -/
def ofSeed (seed : Int) : Twister :=
  ofKey (wordsOf seed.natAbs)

/-- One word of the recurrence, from the word that it replaces, the next one
    and the one `shift` places ahead. -/
def recur (current next ahead : UInt32) : UInt32 :=
  let y := (current &&& 0x80000000) ||| (next &&& 0x7fffffff)
  ahead ^^^ (y >>> 1) ^^^ (if y &&& 1 = 0 then 0 else 0x9908b0df)

/-- Replace all words by their successors, first to last. -/
def refill (ws : Array UInt32) : Array UInt32 :=
  (List.range size).foldl
    (fun ws k =>
      ws.setIfInBounds k
        (recur (word ws k) (word ws ((k + 1) % size)) (word ws ((k + shift) % size))))
    ws

/-- Scramble a state word into an output. -/
def temper (y : UInt32) : UInt32 :=
  let y := y ^^^ (y >>> 11)
  let y := y ^^^ ((y <<< 7) &&& 0x9d2c5680)
  let y := y ^^^ ((y <<< 15) &&& 0xefc60000)
  y ^^^ (y >>> 18)

/-- One word of output. -/
def output (t : Twister) : UInt32 × Twister :=
  if t.position < size then
    (temper (word t.words t.position), ⟨t.words, t.position + 1⟩)
  else
    let ws := refill t.words
    (temper (word ws 0), ⟨ws, 1⟩)

/-- A byte from at most `supply` outputs: the upper nine bits of the first
    output that has them below 256. -/
def byteFrom : Nat → Twister → Int × Twister
  | 0, t => (0, t)
  | supply + 1, t =>
    let (w, t) := t.output
    let r := w >>> 23
    if r < 256 then ((r.toNat : Int), t) else byteFrom supply t

/-- The supply for one byte: more outputs than can have their topmost bit set
    in a row. -/
def supply : Nat := 20000

/-- One byte. -/
def byte (t : Twister) : Int × Twister :=
  byteFrom supply t

instance : Source Twister where
  next := byte

end Twister

end Chip8
