import Chip8.Yaml.Intake
import Chip8.Yaml.Scalar
import Chip8.Yaml.Token.Word

/-!
# The Lexer

A text is cut into tokens from left to right. Two things make that more than
cutting words. Indentation opens and closes collections, so the lexer keeps
the columns of the block collections that are open. And a word turns out to be
a key only when a colon follows, so the lexer remembers the last place where a
key could have begun, at each level of brackets, and puts the key's token in
there afterwards.

A key has to end on the line on which it begins, within 1024 characters. Where
a line has to begin with a key, a missing colon is an error.

## Main definitions

* `Lexer`: The state between two tokens.
* `Lexer.step`: The next tokens.
* `Lexer.tokens`: All tokens of a text.
-/

namespace Chip8

namespace Yaml

/-- A place where a key may have begun. -/
structure Candidate where
  /-- How many tokens came before. -/
  place : Nat
  /-- Whether nothing but a key can begin there. -/
  required : Bool
  offset : Nat
  line : Nat
  column : Nat

/-- The state between two tokens. -/
structure Lexer where
  cursor : Cursor
  tokens : Array Token
  /-- The column of the innermost block collection, and those around it. -/
  indent : Int
  outer : List Int
  /-- The candidate of the innermost level of brackets, and those around it. -/
  candidate : Option Candidate
  candidates : List (Option Candidate)
  /-- Whether a key may begin here. -/
  keyAllowed : Bool

namespace Lexer

/-- The state at the start of a text. -/
def start (text : List Char) : Lexer where
  cursor := .start text
  tokens := #[]
  indent := -1
  outer := []
  candidate := none
  candidates := []
  keyAllowed := true

/-- Whether a bracket is open. -/
def inFlow (s : Lexer) : Bool :=
  !s.candidates.isEmpty

/-- Put a token out. -/
def push (t : Token) (s : Lexer) : Lexer :=
  { s with tokens := s.tokens.push t }

/-- Move on and put a token out. -/
def emit (t : Token) (c : Cursor) (s : Lexer) : Lexer :=
  { s with cursor := c, tokens := s.tokens.push t }

/-! ### Indentation -/

/-- Close the block collections that are indented more than a column. -/
def unwindFrom (column : Int) : List Int → Lexer → Lexer
  | [], s => s
  | i :: is, s =>
    if column < s.indent then
      unwindFrom column is { s with tokens := s.tokens.push .blockEnd, indent := i, outer := is }
    else s

/-- Close the block collections that are indented more than a column. Between
    brackets, indentation means nothing. -/
def unwind (column : Int) (s : Lexer) : Lexer :=
  if s.inFlow then s else unwindFrom column s.outer s

/-- Open a block collection at a column, unless one is open there. The token
    goes in at a place. -/
def openBlock (column : Int) (place : Nat) (t : Token) (s : Lexer) : Lexer :=
  if s.indent < column then
    { s with
      indent := column
      outer := s.indent :: s.outer
      tokens := s.tokens.insertIdxIfInBounds place t }
  else s

/-! ### Candidates -/

/-- Whether a candidate can no longer become a key. -/
def isStale (c : Cursor) (k : Candidate) : Bool :=
  k.line ≠ c.line || 1024 < c.offset - k.offset

/-- Drop the candidates that can no longer become keys. -/
def dropStale (s : Lexer) : Except Failure Lexer :=
  let check (k : Option Candidate) : Except Failure (Option Candidate) :=
    match k with
    | some k =>
      if isStale s.cursor k then
        if k.required then .error .malformed else .ok none
      else .ok (some k)
    | none => .ok none
  do
    let candidate ← check s.candidate
    let candidates ← s.candidates.mapM check
    return { s with candidate, candidates }

/-- Drop the candidate of this level. -/
def dropCandidate (s : Lexer) : Except Failure Lexer :=
  match s.candidate with
  | some k => if k.required then .error .malformed else .ok { s with candidate := none }
  | none => .ok s

/-- Note that a key may begin here. -/
def saveCandidate (s : Lexer) : Except Failure Lexer :=
  if s.keyAllowed then do
    let required := !s.inFlow && s.indent == s.cursor.column
    let s ← s.dropCandidate
    return { s with
      candidate := some
        ⟨s.tokens.size, required, s.cursor.offset, s.cursor.line, s.cursor.column⟩ }
  else .ok s

/-! ### Gaps -/

/-- Skip spaces, comments and line ends. Behind a line end a key may begin,
    except between brackets. -/
def skipGap : Nat → Lexer → Lexer
  | 0, s => s
  | fuel + 1, s =>
    let c := s.cursor.skipSpaces.skipComment
    match c.lineBreak with
    | some (_, c) =>
      skipGap fuel { s with cursor := c, keyAllowed := s.keyAllowed || !s.inFlow }
    | none => { s with cursor := c }

/-- Skip a byte order mark at the start of the text. -/
def skipMark (s : Lexer) : Lexer :=
  if s.cursor.offset = 0 ∧ s.cursor.next = some '\uFEFF' then { s with cursor := s.cursor.step }
  else s

/-! ### Tokens -/

/-- A token that stands at the left margin and ends all collections. -/
def marginToken (read : Cursor → Except Failure (Token × Cursor)) (s : Lexer) :
    Except Failure Lexer := do
  let s ← (s.unwind (-1)).dropCandidate
  let (t, c) ← read s.cursor
  return { s with keyAllowed := false }.emit t c

/-- A token that may begin a key. -/
def keyToken (read : Cursor → Except Failure (Token × Cursor)) (s : Lexer) :
    Except Failure Lexer := do
  let s ← s.saveCandidate
  let (t, c) ← read s.cursor
  return { s with keyAllowed := false }.emit t c

/-- An opening bracket. -/
def openBracket (t : Token) (s : Lexer) : Except Failure Lexer := do
  let s ← s.saveCandidate
  return { s with
    candidate := none
    candidates := s.candidate :: s.candidates
    keyAllowed := true }.emit t s.cursor.step

/-- A closing bracket. -/
def closeBracket (t : Token) (s : Lexer) : Except Failure Lexer := do
  let s ← s.dropCandidate
  match s.candidates with
  | k :: ks =>
    return { s with candidate := k, candidates := ks, keyAllowed := false }.emit t s.cursor.step
  | [] => throw .malformed

/-- A comma between brackets. -/
def comma (s : Lexer) : Except Failure Lexer := do
  let s ← s.dropCandidate
  return { s with keyAllowed := true }.emit .comma s.cursor.step

/-- A mark that opens a block collection where none is open at its column. -/
def openAt (t : Token) (s : Lexer) : Except Failure Lexer :=
  if s.inFlow then .ok s
  else if s.keyAllowed then .ok (s.openBlock s.cursor.column s.tokens.size t)
  else .error .malformed

/-- A dash. -/
def item (s : Lexer) : Except Failure Lexer := do
  let s ← s.openAt .blockSequence
  let s ← s.dropCandidate
  return { s with keyAllowed := true }.emit .item s.cursor.step

/-- A question mark. -/
def key (s : Lexer) : Except Failure Lexer := do
  let s ← s.openAt .blockMapping
  let s ← s.dropCandidate
  return { s with keyAllowed := !s.inFlow }.emit .key s.cursor.step

/-- A colon. The candidate, if there is one, is the key. -/
def value (s : Lexer) : Except Failure Lexer := do
  match s.candidate with
  | some k =>
    let s := { s with
      candidate := none
      keyAllowed := false
      tokens := s.tokens.insertIdxIfInBounds k.place .key }
    let s := if s.inFlow then s else s.openBlock k.column k.place .blockMapping
    return s.emit .value s.cursor.step
  | none =>
    let s ← s.openAt .blockMapping
    return { s with keyAllowed := !s.inFlow }.emit .value s.cursor.step

/-- A block of lines. -/
def block (fold : Bool) (s : Lexer) : Except Failure Lexer := do
  let s ← s.dropCandidate
  let (text, c) ← Scalar.block fold s.indent s.cursor
  return { s with keyAllowed := true }.emit (.scalar (.ofChars text) false) c

/-- A plain text. Behind a line end a key may begin again. -/
def plain (s : Lexer) : Except Failure Lexer := do
  let s ← s.saveCandidate
  let p := Scalar.plain s.inFlow (s.indent + 1) s.cursor.fuel s.cursor
  return { s with keyAllowed := p.broken }.emit (.scalar (.ofChars p.text) true) p.behind

/-- A text between quotes. -/
def quoted (double : Bool) (c : Cursor) : Except Failure (Token × Cursor) := do
  let (text, c) ← Scalar.quoted double c
  return (.scalar text false, c)

/-- Whether a plain text may begin with a character. -/
def startsPlain (inFlow : Bool) (ch : Char) (after : Option Char) : Bool :=
  !(endsToken (some ch) || "-?:,[]\x7b\x7d#&*!|>'\"%@`".toList.contains ch)
    || (!endsToken after && (ch == '-' || (!inFlow && (ch == '?' || ch == ':'))))

/-- The end of the text. -/
def finish (s : Lexer) : Except Failure Lexer := do
  let s ← (s.unwind (-1)).dropCandidate
  return s.push .streamEnd

/-- The tokens that begin with a character, between gaps. -/
def tokenAt (ch : Char) (s : Lexer) : Except Failure Lexer :=
  let c := s.cursor
  let after := c.nth 1
  if ch = '%' ∧ c.column = 0 then s.marginToken Word.directive
  else if c.column = 0 ∧ c.atTriple '-' then
    s.marginToken fun c => .ok (.documentStart, c.skip 3)
  else if c.column = 0 ∧ c.atTriple '.' then
    s.marginToken fun c => .ok (.documentEnd, c.skip 3)
  else if ch = '[' then s.openBracket .openList
  else if ch = '\x7b' then s.openBracket .openMapping
  else if ch = ']' then s.closeBracket .closeList
  else if ch = '\x7d' then s.closeBracket .closeMapping
  else if ch = ',' then s.comma
  else if ch = '-' && endsToken after then s.item
  else if ch = '?' && (s.inFlow || endsToken after) then s.key
  else if ch = ':' && (s.inFlow || endsToken after) then s.value
  else if ch = '*' then
    s.keyToken fun c => do
      let (n, c) ← Word.name c
      return (.alias n, c)
  else if ch = '&' then
    s.keyToken fun c => do
      let (n, c) ← Word.name c
      return (.anchor n, c)
  else if ch = '!' then s.keyToken Word.tag
  else if ch = '|' && !s.inFlow then s.block false
  else if ch = '>' && !s.inFlow then s.block true
  else if ch = '\'' then s.keyToken (quoted false)
  else if ch = '"' then s.keyToken (quoted true)
  else if startsPlain s.inFlow ch after then s.plain
  else .error .malformed

/-- Move to where the next token begins. -/
def approach (s : Lexer) : Lexer :=
  s.skipMark.skipGap s.cursor.fuel

/-- The next tokens, where one begins. -/
def step (s : Lexer) : Except Failure Lexer := do
  let s ← s.dropStale
  let s := s.unwind s.cursor.column
  match s.cursor.next with
  | none => s.finish
  | some ch => s.tokenAt ch

/-- How many tokens stay as they are: those before the first that may still
    turn out to be a key. -/
def settled (s : Lexer) : Nat :=
  (s.candidate :: s.candidates).foldl
    (fun n k =>
      match k with
      | some k => if isStale s.cursor k then n else min n k.place
      | none => n)
    s.tokens.size

/-- Tokens up to the end of the text, or to a fault. Each step takes a
    character or is the last. Tokens that are not settled at a fault are lost
    to it. If something is met behind the text, whatever reaches the end of the
    text meets it. -/
def run (beyond : Option Failure) : Nat → Lexer → Array Token
  | 0, s => s.tokens
  | fuel + 1, s =>
    let stop (f : Failure) : Array Token := (s.tokens.take s.settled).push (.broken f)
    let atToken := s.approach
    match beyond with
    | none =>
      match atToken.step with
      | .error f => stop f
      | .ok t => if t.tokens.back? = some .streamEnd then t.tokens else run beyond fuel t
    | some g =>
      if atToken.cursor.rest.isEmpty then stop g
      else
        match atToken.step with
        | .error f => stop (if f = .unfinished then g else f)
        | .ok t => if t.cursor.rest.isEmpty then stop g else run beyond fuel t

/-- All tokens of a file. -/
def tokensOf (i : Intake) : List Token :=
  (run i.beyond (i.text.length + 2) (start i.text)).toList

end Lexer

end Yaml

end Chip8
