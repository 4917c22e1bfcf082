/-!
The tokens of a YAML text. Blocks are told by indentation, so the tokens that open and close them have no
characters of their own; nor has the one before a key that is known only by the colon behind it.
-/

namespace SchemaScribe.Document.Yaml

inductive Directive where
  | version (major : Nat)
  | handle (name meaning : String)
  | other
  deriving Repr, DecidableEq

inductive Token where
  | directive (d : Directive)
  | documentStart
  | documentEnd
  | blockSequence
  | blockMapping
  | blockEnd
  | flowSequence
  | flowSequenceEnd
  | flowMapping
  | flowMappingEnd
  | comma
  | dash
  | key
  | value
  | alias (name : String)
  | anchor (name : String)
  /-- A tag without a handle is written in full. -/
  | tag (handle : Option String) (rest : String)
  /-- A scalar by its code points. -/
  | scalar (isPlain : Bool) (codes : List Nat)
  | streamEnd
  deriving Repr, DecidableEq

end SchemaScribe.Document.Yaml
