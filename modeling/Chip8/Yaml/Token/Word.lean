import Chip8.Numeral.Integer
import Chip8.Yaml.Cursor
import Chip8.Yaml.Token

/-!
# Names, Tags and Directives

The tokens that are single words: anchors and aliases, tags, and the lines
that start with a percent sign.

## Main definitions

* `Word.name`: The name behind the mark of an anchor or an alias.
* `Word.tag`: A tag.
* `Word.directive`: A directive line.
-/

namespace Chip8

namespace Yaml

namespace Word

/-- The characters of names. -/
def isNameChar (c : Char) : Bool :=
  c.isAlphanum || c = '-' || c = '_'

/-- The characters of tags beyond those of names. The percent sign starts an
    escaped byte. -/
def isTagChar (c : Char) : Bool :=
  c.isAlphanum || "-;/?:@&=+$,_.!~*'()[]%".toList.contains c

/-- What may follow a name. -/
def endsName (o : Option Char) : Bool :=
  endsToken o || "?:,]\x7d%@`".toList.contains (o.getD ' ')

/-- The name behind the mark of an anchor or an alias. -/
def name (c : Cursor) : Except Failure (String × Cursor) :=
  let (cs, c) := c.step.span isNameChar
  if cs.isEmpty || !endsName c.next then .error (c.fault 1) else .ok (String.ofList cs, c)

/-- The bytes of escapes that follow each other. -/
def escapedBytes : Nat → Cursor → Except Failure (List UInt8 × Cursor)
  | 0, _ => .error .malformed
  | fuel + 1, c =>
    if c.next = some '%' then
      match c.step.hex 2 with
      | some n => do
        let (bs, c) ← escapedBytes fuel (c.skip 3)
        return (UInt8.ofNat n :: bs, c)
      | none => .error (c.step.fault 2)
    else .ok ([], c)

/-- The characters of a tag, escapes resolved. -/
def tagChars : Nat → Cursor → Except Failure (List Char × Cursor)
  | 0, _ => .error .malformed
  | fuel + 1, c =>
    match c.next with
    | none => .ok ([], c)
    | some ch =>
      if ch = '%' then do
        let (bs, c) ← escapedBytes c.fuel c
        match String.fromUTF8? ⟨bs.toArray⟩ with
        | some s =>
          let (cs, c) ← tagChars fuel c
          return (s.toList ++ cs, c)
        | none => throw .malformed
      else if isTagChar ch then do
        let (cs, c) ← tagChars fuel c.step
        return (ch :: cs, c)
      else .ok ([], c)

/-- The part of a tag that cannot be empty. -/
def tagText (c : Cursor) : Except Failure (String × Cursor) := do
  let start := c.offset
  let (cs, c) ← tagChars c.fuel c
  if c.offset = start then throw (c.fault 1) else return (String.ofList cs, c)

/-- A short form: an exclamation mark, or a name between two of them. -/
def handle (c : Cursor) : Except Failure (String × Cursor) :=
  if c.next ≠ some '!' then .error (c.fault 1)
  else if c.nth 1 = some ' ' then .ok ("!", c.step)
  else
    let (cs, c) := c.step.span isNameChar
    if c.next = some '!' then .ok (String.ofList ('!' :: cs ++ ['!']), c.step)
    else .error (c.fault 1)

/-- Whether a second exclamation mark comes before the end of the word. -/
def hasHandle (c : Cursor) : Bool :=
  (c.step.rest.takeWhile fun ch => !(ch = ' ' || isBreak ch)).contains '!'

/-- A tag: in full between angle brackets, a lone exclamation mark, or a short
    form and the rest. -/
def tag (c : Cursor) : Except Failure (Token × Cursor) := do
  let (t, c) ←
    if c.nth 1 = some '<' then do
      let (s, c) ← tagText (c.skip 2)
      if c.next = some '>' then pure (Token.tag none s, c.step) else throw (c.fault 1)
    else if endsToken (c.nth 1) then pure (Token.tag none "!", c.step)
    else if hasHandle c then do
      let (h, c) ← handle c
      let (s, c) ← tagText c
      pure (Token.tag (some h) s, c)
    else do
      let (s, c) ← tagText c.step
      pure (Token.tag (some "!") s, c)
  if endsWord c.next then return (t, c) else throw .malformed

/-- A number of a version. -/
def number (c : Cursor) : Except Failure (Nat × Cursor) :=
  let (cs, c) := c.span Char.isDigit
  match Integer.read 10 cs with
  | .ok n => .ok (n.toNat, c)
  | .error (.tooLong n) => .error (.tooManyDigits n)
  | .error .unreadable => .error (c.fault 1)

/-- The rest of a directive line: a comment or nothing. -/
def lineEnd (t : Token) (c : Cursor) : Except Failure (Token × Cursor) :=
  let c := c.skipSpaces.skipComment
  if endsLine c.next then .ok (t, c.skipBreak) else .error .malformed

/-- A directive line. Directives other than versions and short forms of tags
    are passed over. -/
def directive (c : Cursor) : Except Failure (Token × Cursor) := do
  let (cs, c) := c.step.span isNameChar
  if cs.isEmpty || !endsWord c.next then throw (c.fault 1)
  let directiveName := String.ofList cs
  if directiveName = "YAML" then
    let (major, c) ← number c.skipSpaces
    if c.next ≠ some '.' then throw (c.fault 1)
    let (minor, c) ← number c.step
    if !endsWord c.next then throw .malformed
    lineEnd (.version major minor) c
  else if directiveName = "TAG" then
    let (h, c) ← handle c.skipSpaces
    if c.next ≠ some ' ' then throw (c.fault 1)
    let (s, c) ← tagText c.skipSpaces
    if !endsWord c.next then throw .malformed
    lineEnd (.tagHandle h s) c
  else lineEnd .directive (c.skipWhile (!isBreak ·))

end Word

end Yaml

end Chip8
