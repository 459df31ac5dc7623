import Chip8.Yaml.Cursor
import Chip8.Yaml.Failure

/-!
# Scalars

The written forms of a single text: plain, between quotes, and as a block of
lines. In all of them a line end between two words stands for a space, and
line ends beyond the first stand for themselves, except where a block keeps
its lines.

Each function reads one form and gives the text with the place behind it. The
first argument of a loop bounds its steps; every step takes a character.

## Main definitions

* `Scalar.quoted`: Between single or double quotes.
* `Scalar.plain`: Without quotes.
* `Scalar.block`: A block of lines.
-/

namespace Chip8

namespace Yaml

namespace Scalar

/-- What a line end and the empty lines after it stand for. -/
def folded (first : Char) (others : List Char) : List Char :=
  if first ≠ '\n' then first :: others
  else if others.isEmpty then [' ']
  else others

/-! ### Between quotes -/

/-- The characters with an escape of one letter. -/
def namedEscapes : List (Char × Char) :=
  [('0', '\x00'), ('a', '\x07'), ('b', '\x08'), ('t', '\t'), ('\t', '\t'), ('n', '\n'),
   ('v', '\x0b'), ('f', '\x0c'), ('r', '\r'), ('e', '\x1b'), (' ', ' '), ('"', '"'),
   ('\\', '\\'), ('/', '/'), ('N', '\x85'), ('_', '\xa0'), ('L', '\u2028'), ('P', '\u2029')]

/-- How many digits follow the letter of an escape by number. -/
def escapeDigits (ch : Char) : Option Nat :=
  if ch = 'x' then some 2
  else if ch = 'u' then some 4
  else if ch = 'U' then some 8
  else none

/-- The line ends from here on, with the blanks around them skipped. A
    document mark has no place inside quotes. -/
def quotedBreaks : Nat → Cursor → Except Failure (List Char × Cursor)
  | 0, _ => .error .malformed
  | fuel + 1, c =>
    if c.atDocumentMark then .error .malformed
    else
      let c := c.skipWhile fun ch => ch = ' ' || ch = '\t'
      match c.lineBreak with
      | some (b, c) => (quotedBreaks fuel c).map fun (bs, c) => (b :: bs, c)
      | none => .ok ([], c)

/-- Blanks or line ends between quotes: blanks stand for themselves unless a
    line ends behind them. -/
def quotedGap (c : Cursor) : Except Failure (List Char × Cursor) :=
  let (blanks, c) := c.span fun ch => ch = ' ' || ch = '\t'
  match c.next with
  | none => .error .unfinished
  | some _ =>
    match c.lineBreak with
    | some (b, c) => do
      let (breaks, c) ← quotedBreaks c.fuel c
      return (folded b breaks, c)
    | none => .ok (blanks, c)

/-- The code point of an escape by number, whose digits end at `c`. -/
def numbered (code : Nat) (c : Cursor) : Except Failure (CodePoint × Cursor) :=
  if 0x110000 ≤ code then .error (.character code) else .ok (.ofNat code, c)

/-- An escape, behind its backslash. -/
def escape (c : Cursor) : Except Failure (List CodePoint × Cursor) :=
  match c.next with
  | none => .error .unfinished
  | some ch =>
    match namedEscapes.find? (·.1 == ch) with
    | some (_, meaning) => .ok ([.char meaning], c.step)
    | none =>
      match escapeDigits ch with
      | some n =>
        match c.step.hex n with
        | some code => do
          let (p, c) ← numbered code (c.step.skip n)
          return ([p], c)
        | none => .error (c.step.fault n)
      | none =>
        match c.lineBreak with
        | some (_, c) => do
          let (breaks, c) ← quotedBreaks c.fuel c
          return (breaks.map .char, c)
        | none => .error .malformed

/-- The code points up to the closing quote. -/
def quotedRest (double : Bool) : Nat → Cursor → Except Failure (List CodePoint × Cursor)
  | 0, _ => .error .malformed
  | fuel + 1, c =>
    match c.next with
    | none => .error .unfinished
    | some ch =>
      if ch = (if double then '"' else '\'') then
        if !double && c.nth 1 == some '\'' then do
          let (ps, c) ← quotedRest double fuel (c.skip 2)
          return (.char '\'' :: ps, c)
        else .ok ([], c.step)
      else if double && ch == '\\' then do
        let (escaped, c) ← escape c.step
        let (ps, c) ← quotedRest double fuel c
        return (escaped ++ ps, c)
      else if ch = ' ' || ch = '\t' || isBreak ch then do
        let (gap, c) ← quotedGap c
        let (ps, c) ← quotedRest double fuel c
        return (gap.map .char ++ ps, c)
      else do
        let (ps, c) ← quotedRest double fuel c.step
        return (.char ch :: ps, c)

/-- A text between quotes, from its opening quote. -/
def quoted (double : Bool) (c : Cursor) : Except Failure (Text × Cursor) := do
  let (ps, c) ← quotedRest double c.fuel c.step
  return (⟨ps⟩, c)

/-! ### Plain -/

/-- Whether a plain text ends before a character. A colon ends it only before
    a blank or, in brackets, before punctuation. -/
def plainStops (inFlow : Bool) (ch : Char) (after : Option Char) : Bool :=
  endsToken (some ch)
    || (ch == ':'
      && (endsToken after || (inFlow && ",[]\x7b\x7d".toList.contains (after.getD ' '))))
    || (inFlow && ",?[]\x7b\x7d".toList.contains ch)

/-- The characters of a plain text without blanks. -/
def plainWord (inFlow : Bool) : List Char → List Char
  | [] => []
  | ch :: r => if plainStops inFlow ch r.head? then [] else ch :: plainWord inFlow r

/-- The empty lines from here on, none before a document mark. -/
def plainBreaks : Nat → Cursor → Option (List Char) × Cursor
  | 0, c => (none, c)
  | fuel + 1, c =>
    let c := c.skipSpaces
    match c.lineBreak with
    | none => (some [], c)
    | some (b, c) =>
      if c.atDocumentMark then (none, c)
      else
        let (bs, c) := plainBreaks fuel c
        (bs.map (b :: ·), c)

/-- The gap behind a word of a plain text. -/
structure PlainGap where
  /-- What it stands for. Nothing ends the text. -/
  text : List Char
  /-- Whether a line ends in it. -/
  broken : Bool
  behind : Cursor

/-- The gap from here on. -/
def plainGap (c : Cursor) : PlainGap :=
  let (spaces, c) := c.span (· = ' ')
  match c.lineBreak with
  | none => ⟨spaces, false, c⟩
  | some (b, c) =>
    if c.atDocumentMark then ⟨[], true, c⟩
    else
      match plainBreaks c.fuel c with
      | (none, c) => ⟨[], true, c⟩
      | (some bs, c) => ⟨folded b bs, true, c⟩

/-- A plain text read. -/
structure Plain where
  text : List Char
  /-- Whether a line ended behind it. -/
  broken : Bool
  behind : Cursor

/-- A plain text from here on, continued on lines that are indented enough. -/
def plain (inFlow : Bool) (indent : Int) : Nat → Cursor → Plain
  | 0, c => ⟨[], false, c⟩
  | fuel + 1, c =>
    let word := plainWord inFlow c.rest
    if word.isEmpty then ⟨[], false, c⟩
    else
      let gap := plainGap (c.skip word.length)
      let c := gap.behind
      let more := plainWord inFlow c.rest
      if gap.text.isEmpty || c.next == some '#' || (!inFlow && c.column < indent)
          || more.isEmpty then
        ⟨word, gap.broken, c⟩
      else
        let following := plain inFlow indent fuel c
        { following with text := word ++ gap.text ++ following.text }

/-! ### Blocks -/

/-- What happens to the line ends behind a block. -/
inductive Chomp where
  | strip
  | clip
  | keep
  deriving DecidableEq

/-- The mark of a chomping rule. -/
def chompMark (o : Option Char) : Option Chomp :=
  if o = some '+' then some .keep
  else if o = some '-' then some .strip
  else none

/-- The digit of an indentation mark. Zero is none. -/
def indentMark (o : Option Char) : Except Failure (Option Nat) :=
  match o with
  | some ch =>
    if ch = '0' then .error .malformed
    else if ch.isDigit then .ok (some (ch.toNat - 48))
    else .ok none
  | none => .ok none

/-- The marks behind the indicator of a block, in either order. -/
def blockMarks (c : Cursor) : Except Failure (Chomp × Option Nat × Cursor) := do
  let (chomp, increment, c) ←
    match chompMark c.next with
    | some chomp => do
      let c := c.step
      match ← indentMark c.next with
      | some n => pure (chomp, some n, c.step)
      | none => pure (chomp, none, c)
    | none => do
      match ← indentMark c.next with
      | some n =>
        let c := c.step
        match chompMark c.next with
        | some chomp => pure (chomp, some n, c.step)
        | none => pure (.clip, some n, c)
      | none => pure (.clip, none, c)
  if endsWord c.next then return (chomp, increment, c) else throw .malformed

/-- The rest of a line that may hold a comment and nothing else. -/
def emptyLine (c : Cursor) : Except Failure Cursor :=
  let c := c.skipSpaces.skipComment
  if endsLine c.next then .ok c.skipBreak else .error .malformed

/-- The empty lines at the start of a block, and the greatest width of spaces
    among them and before the first text. -/
def blockIndent : Nat → Cursor → Nat → List Char × Nat × Cursor
  | 0, c, width => ([], width, c)
  | fuel + 1, c, width =>
    match c.lineBreak with
    | some (b, c) =>
      let (bs, width, c) := blockIndent fuel c width
      (b :: bs, width, c)
    | none =>
      if c.next = some ' ' then
        let c := c.step
        blockIndent fuel c (max width c.column)
      else ([], width, c)

/-- Skip spaces up to a column. -/
def indentTo (indent : Int) (c : Cursor) : Cursor :=
  let width := (c.rest.takeWhile (· = ' ')).length
  c.skip (min width (indent - c.column).toNat)

/-- The empty lines inside a block. -/
def blockBreaks (indent : Int) : Nat → Cursor → List Char × Cursor
  | 0, c => ([], c)
  | fuel + 1, c =>
    let c := indentTo indent c
    match c.lineBreak with
    | some (b, c) =>
      let (bs, c) := blockBreaks indent fuel c
      (b :: bs, c)
    | none => ([], c)

/-- The lines of a block from a text line on. `empty` are the empty lines that
    came before it. -/
def blockLines (fold : Bool) (chomp : Chomp) (indent : Int) :
    Nat → Cursor → List Char → List Char → List Char × Cursor
  | 0, c, _, _ => ([], c)
  | fuel + 1, c, lineEnd, empty =>
    if c.column = indent ∧ c.next ≠ none then
      let isBlank (o : Option Char) : Bool := o = some ' ' || o = some '\t'
      let indented := isBlank c.next
      let (text, c) := c.span (!isBreak ·)
      let (lineEnd, c) : List Char × Cursor :=
        match c.lineBreak with
        | some (b, c) => ([b], c)
        | none => ([], c)
      let (breaks, c) := blockBreaks indent c.fuel c
      let joint :=
        if c.column = indent ∧ c.next ≠ none then
          if fold && lineEnd == ['\n'] && !indented && !isBlank c.next then
            if breaks.isEmpty then [' '] else []
          else lineEnd
        else []
      let (more, c) := blockLines fold chomp indent fuel c lineEnd breaks
      (empty ++ text ++ joint ++ more, c)
    else
      match chomp with
      | .strip => ([], c)
      | .clip => (lineEnd, c)
      | .keep => (lineEnd ++ empty, c)

/-- A block from its indicator on, inside a collection at column `indent`. -/
def block (fold : Bool) (indent : Int) (c : Cursor) : Except Failure (List Char × Cursor) := do
  let (chomp, increment, c) ← blockMarks c.step
  let c ← emptyLine c
  let least := max 1 (indent + 1)
  match increment with
  | none =>
    let (empty, width, c) := blockIndent c.fuel c 0
    return blockLines fold chomp (max least width) c.fuel c [] empty
  | some n =>
    let column := least + n - 1
    let (empty, c) := blockBreaks column c.fuel c
    return blockLines fold chomp column c.fuel c [] empty

end Scalar

end Yaml

end Chip8
