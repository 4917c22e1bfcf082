import SchemaScribe.Document.Yaml.Tag

/-!
The nodes of a YAML text. An alias is the node that has its anchor; only a node that contains an alias of
itself keeps it, as a reference to the collection around it.
-/

namespace SchemaScribe.Document.Yaml

inductive Node where
  | scalar (tag : Tag) (codes : List Nat)
  | sequence (tag : Tag) (items : List Node)
  | mapping (tag : Tag) (entries : List (Node × Node))
  /-- The collection around this node that has the anchor. -/
  | enclosing (anchor : String)
  deriving Repr, Inhabited

namespace Node

def empty : Node := scalar .null []

mutual

/-- Puts a node in the place of the references to an anchor. -/
def resolve (anchor : String) (target : Node) : Node → Node
  | scalar tag codes => scalar tag codes
  | sequence tag items => sequence tag (resolveItems anchor target items)
  | mapping tag entries => mapping tag (resolveEntries anchor target entries)
  | enclosing name => if name = anchor then target else enclosing name

def resolveItems (anchor : String) (target : Node) : List Node → List Node
  | [] => []
  | n :: ns => resolve anchor target n :: resolveItems anchor target ns

def resolveEntries (anchor : String) (target : Node) : List (Node × Node) → List (Node × Node)
  | [] => []
  | (key, value) :: es =>
    (resolve anchor target key, resolve anchor target value) :: resolveEntries anchor target es

end

/-- How often a collection is looked up within itself: no more often than a document is deep. -/
def maxUnrolling : Nat := 4

/-- The node with itself in the place of the references to its anchor, as deep as a document goes. -/
def unroll (anchor : String) (n : Node) : Node :=
  Nat.repeat (fun target => n.resolve anchor target) maxUnrolling n

end Node

end SchemaScribe.Document.Yaml
