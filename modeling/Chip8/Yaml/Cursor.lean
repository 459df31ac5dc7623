import Chip8.Yaml.Failure

/-!
# Cursors

A place in a text: what is still to be read, and the line and column where it
starts. Columns decide how a document is nested, and lines and offsets decide
how long a text may still turn out to be a key.

## Main definitions

* `Cursor`: A place in a text.
* `Cursor.step`, `Cursor.skip`: The places behind the next characters.
* `Cursor.span`: The characters up to the first that fails a test.
* `Cursor.lineBreak`: The end of a line.
* `Cursor.atDocumentMark`: Whether a document ends or starts here.
* `Cursor.fault`: The failure at a place that is not as it should be.
-/

namespace Chip8

namespace Yaml

/-- The characters that end a line. -/
def isBreak (c : Char) : Bool :=
  c = '\n' || c = '\x85' || c = '\u2028' || c = '\u2029'

/-- The end of the text, or of a line. -/
def endsLine : Option Char → Bool
  | none => true
  | some c => isBreak c

/-- The end of the text or of a line, or a space. -/
def endsWord : Option Char → Bool
  | none => true
  | some c => c = ' ' || isBreak c

/-- The end of the text or of a line, a space or a tab. -/
def endsToken : Option Char → Bool
  | none => true
  | some c => c = ' ' || c = '\t' || isBreak c

/-- A place in a text. -/
structure Cursor where
  rest : List Char
  /-- How many characters came before. -/
  offset : Nat
  line : Nat
  column : Nat

namespace Cursor

/-- The start of a text. -/
def start (text : List Char) : Cursor :=
  ⟨text, 0, 0, 0⟩

/-- The next character. -/
def next (c : Cursor) : Option Char :=
  c.rest.head?

/-- The character after the next `k` ones. -/
def nth (c : Cursor) (k : Nat) : Option Char :=
  c.rest[k]?

/-- An upper bound for the steps of a loop that reads on from here. -/
def fuel (c : Cursor) : Nat :=
  c.rest.length + 1

/-- The place behind the next character. A byte order mark has no width. -/
def step (c : Cursor) : Cursor :=
  match c.rest with
  | [] => c
  | ch :: r =>
    if isBreak ch then ⟨r, c.offset + 1, c.line + 1, 0⟩
    else ⟨r, c.offset + 1, c.line, if ch = '\uFEFF' then c.column else c.column + 1⟩

/-- The place behind the next `n` characters. -/
def skip (c : Cursor) : Nat → Cursor
  | 0 => c
  | n + 1 => c.step.skip n

/-- The next characters that pass a test, and the place behind them. -/
def span (p : Char → Bool) (c : Cursor) : List Char × Cursor :=
  let cs := c.rest.takeWhile p
  (cs, c.skip cs.length)

/-- The place behind the next characters that pass a test. -/
def skipWhile (p : Char → Bool) (c : Cursor) : Cursor :=
  (c.span p).2

/-- The place behind the spaces here. -/
def skipSpaces (c : Cursor) : Cursor :=
  c.skipWhile (· = ' ')

/-- The end of the line, if one is here: what stands for it in a text, and the
    place behind it. -/
def lineBreak (c : Cursor) : Option (Char × Cursor) :=
  match c.next with
  | some ch =>
    if ch = '\n' ∨ ch = '\x85' then some ('\n', c.step)
    else if isBreak ch then some (ch, c.step)
    else none
  | none => none

/-- The place behind the end of the line, if one is here. -/
def skipBreak (c : Cursor) : Cursor :=
  match c.lineBreak with
  | some (_, c) => c
  | none => c

/-- The place behind a comment, if one is here. -/
def skipComment (c : Cursor) : Cursor :=
  if c.next = some '#' then c.skipWhile (!isBreak ·) else c

/-- Whether three equal characters stand here by themselves. -/
def atTriple (ch : Char) (c : Cursor) : Bool :=
  c.rest.take 3 == [ch, ch, ch] && endsToken (c.nth 3)

/-- Whether the mark of a document's start or end stands here. -/
def atDocumentMark (c : Cursor) : Bool :=
  c.atTriple '-' || c.atTriple '.'

/-- The number that the next `n` characters make in base 16, if they are
    digits. -/
def hex (c : Cursor) (n : Nat) : Option Nat :=
  let value (ch : Char) : Option Nat :=
    if ch.isDigit then some (ch.toNat - 48)
    else if 'a' ≤ ch ∧ ch ≤ 'f' then some (ch.toNat - 87)
    else if 'A' ≤ ch ∧ ch ≤ 'F' then some (ch.toNat - 55)
    else none
  (List.range n).foldlM (fun acc k => do return 16 * acc + (← value (← c.nth k))) 0

/-- The failure at a place that is not as it should be. Where less than `n`
    characters are left, there is not enough text to tell. -/
def fault (c : Cursor) (n : Nat) : Failure :=
  if c.rest.length < n then .unfinished else .malformed

end Cursor

end Yaml

end Chip8
