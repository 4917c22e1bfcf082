import SchemaScribe.Diagram.Basic
import SchemaScribe.Entries

/-!
The enumerations among the custom types of a diagram, by declared name. A name that is declared again
keeps its place and takes the later values. A broken name is left out, since no field declares it as its type.
-/

namespace SchemaScribe

structure Enumeration where
  values : List String
  schema : Option String
  deriving Repr, DecidableEq

namespace Enumeration

/-- A custom type is an enumeration if it is declared as one and has values. -/
def ofCustomType? (t : CustomType) : Option (String × Enumeration) :=
  if t.kind = .enumeration && !t.values.isEmpty then
    t.name.text?.map fun name => (name, ⟨t.values, nonEmpty t.schema⟩)
  else none

def ofCustomTypes (types : List CustomType) : List (String × Enumeration) :=
  Entries.ofList (types.filterMap ofCustomType?)

end Enumeration

end SchemaScribe
