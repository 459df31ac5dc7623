import Chip8.Yaml.Failure

/-!
# Tokens

The marks and texts that a document is made of. Nesting by indentation shows
up as starts and ends of block collections. A text that cannot be read to its
end gives the tokens before the fault and then the fault itself, so that a
grammar error before it is found first.

## Main definitions

* `Token`: The tokens.
-/

namespace Chip8

namespace Yaml

/-- What a document is made of. -/
inductive Token where
  | streamEnd
  /-- The version that a document is written for. -/
  | version (major minor : Nat)
  /-- A short form for the beginnings of tags. -/
  | tagHandle (handle lead : String)
  /-- Any other directive. -/
  | directive
  | documentStart
  | documentEnd
  | blockSequence
  | blockMapping
  | blockEnd
  | openList
  | closeList
  | openMapping
  | closeMapping
  /-- A dash before an item. -/
  | item
  /-- A comma. -/
  | comma
  | key
  | value
  | alias (name : String)
  | anchor (name : String)
  /-- A tag: the short form used, if any, and the rest. -/
  | tag (handle : Option String) (suffix : String)
  | scalar (text : Text) (isPlain : Bool)
  /-- The text could not be read on. -/
  | broken (f : Failure)
  deriving DecidableEq, Repr

end Yaml

end Chip8
