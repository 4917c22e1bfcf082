import SchemaScribe.Document.Yaml.Denotation
import SchemaScribe.Document.Yaml.Lexer
import SchemaScribe.Document.Yaml.Structure

/-!
Reading YAML texts: the tokens of a text make up a node, and the node denotes a value.
-/

namespace SchemaScribe.Document.Yaml

/-- The characters that a YAML text may have. -/
def isAllowed (c : Char) : Bool :=
  let n := c.toNat
  n = 0x09 || n = 0x0a || n = 0x0d || (0x20 ≤ n && n ≤ 0x7e) || n = 0x85
    || (0xa0 ≤ n && n ≤ 0xfffd) || 0x10000 ≤ n

def read (cs : List Char) : Except Fault Value := do
  if !cs.all isAllowed then throw .malformed
  let (tokens, fault) := tokensOf cs
  (← Node.ofTokens tokens fault).value

end SchemaScribe.Document.Yaml
