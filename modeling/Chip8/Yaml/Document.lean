import Chip8.Yaml.Assembly
import Chip8.Yaml.Node.Builder
import Chip8.Yaml.Token.Lexer

/-!
# Documents of Files

A file is taken in, cut into tokens and built into a graph, and the values of
the graph's nodes are assembled.

A host can follow nested collections only so deep, and fails at what goes deeper.
Nothing of that is here: any depth is followed, so this stands for the reader of a
host on the documents that are within its reach.

## Main definitions

* `documentOf`: The document of a file.
-/

namespace Chip8

namespace Yaml

/-- The document of a file. A file without one holds nothing. -/
def documentOf (bytes : ByteArray) : Except Failure Document := do
  match ← Graph.ofTokens (Lexer.tokensOf (.ofBytes bytes)) with
  | some g => g.document
  | none => return .ofValue .null

end Yaml

end Chip8
