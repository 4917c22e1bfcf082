import SchemaScribe.Document.Yaml.Node
import SchemaScribe.Document.Yaml.Scalar
import SchemaScribe.Entries

/-!
The values that nodes denote. Values are made level by level, so of several faults the one that is least deep
counts, and of those the first. Keys have to be scalars; an entry of an object whose key is no text is of no use
to a document and left out.
-/

namespace SchemaScribe.Document.Yaml

/-- A fault and the number of collections around it. -/
structure DeepFault where
  depth : Nat
  fault : Fault
  deriving Repr, DecidableEq

/-- What a part of a node denotes. -/
abbrev Denoted (α : Type) := Except DeepFault α

namespace Denoted

/-- The less deep of two faults, or else the first. -/
def earlier (first second : DeepFault) : DeepFault :=
  if second.depth < first.depth then second else first

def both (f : α → β → γ) (first : Denoted α) (second : Denoted β) : Denoted γ :=
  match first, second with
  | .ok a, .ok b => .ok (f a b)
  | .error fault, .ok _ => .error fault
  | .ok _, .error fault => .error fault
  | .error fault, .error other => .error (earlier fault other)

def all : List (Denoted α) → Denoted (List α)
  | [] => .ok []
  | part :: parts => both (· :: ·) part (all parts)

/-- What is denoted within a collection. -/
def deeper (part : Denoted α) : Denoted α :=
  part.mapError fun fault => { fault with depth := fault.depth + 1 }

def fail (depth : Nat) (fault : Fault) : Denoted α :=
  .error ⟨depth, fault⟩

end Denoted

namespace Node

abbrev DenotedEntry := Denoted (Value × Value)

def tag? : Node → Option Tag
  | scalar tag _ => some tag
  | sequence tag _ => some tag
  | mapping tag _ => some tag
  | enclosing _ => none

def isMergeKey (n : Node) : Bool :=
  n.tag? = some .merge

/-! ### Scalars -/

mutual

/-- The text of a scalar. A mapping that is taken for a scalar is its default value. -/
def content? : Node → Option (List Nat)
  | scalar _ codes => some codes
  | sequence _ _ => none
  | mapping _ entries => defaultContent? entries
  | enclosing _ => none

/-- The text of the default value among the entries of a mapping. -/
def defaultContent? : List (Node × Node) → Option (List Nat)
  | [] => none
  | (key, content) :: es => if key.tag? = some .default then content? content else defaultContent? es

end

def isScalar : Node → Bool
  | scalar _ _ => true
  | sequence _ _ => false
  | mapping _ _ => false
  | enclosing _ => false

def denotedScalar (tag : Tag) (n : Node) : Denoted Value :=
  match n.content? with
  | some codes =>
    if tag = .timestamp && !n.isScalar then .fail 0 (.scalar .enclosedTimestamp)
    else (Scalar.value tag codes).mapError (DeepFault.mk 0)
  | none => .fail 0 .malformed

/-- What a key denotes, which has to be a scalar. That of a default value is nothing special in a document. -/
def denotedKey (n : Node) : Denoted Value :=
  match n.tag? with
  | some .default => denotedScalar .text n
  | some tag => denotedScalar tag n
  | none => .fail 0 .malformed

/-! ### Collections -/

/-- The object of the entries whose keys are texts, later ones in the place of earlier ones. -/
def objectOf (entries : List (Value × Value)) : Value :=
  .object (Entries.ofList (entries.filterMap fun (key, value) =>
    match key with
    | .text s => some (s, value)
    | _ => none))

/-- Whether two keys are the same as far as they can be told apart. -/
def sameKey : Value → Value → Bool
  | .null, .null => true
  | .bool a, .bool b => a = b
  | .int a, .int b => a = b
  | .text a, .text b => a = b
  | .octets a, .octets b => a = b
  | _, _ => false

/-- The set of the keys of entries. -/
def setOf (entries : List (Value × Value)) : Value :=
  .set (entries.foldl (fun keys (key, _) => if keys.any (sameKey key) then keys else keys ++ [key]) [])

/-- The faulty value of a collection with a tag that it cannot have. Where the tag is that of another collection,
this is found only within. -/
def misplaced (tag : Tag) : Denoted Value :=
  .fail (if tag.isOfCollection then 1 else 0) .malformed

mutual

def denoted : Node → Denoted Value
  | scalar tag codes => if tag.isOfCollection then misplaced tag else denotedScalar tag (scalar tag codes)
  | sequence tag items =>
    match tag with
    | .sequence => Denoted.deeper ((Denoted.all (itemsDenoted items)).map Value.list)
    | .orderedMapping => Denoted.deeper ((Denoted.all (pairsDenoted items)).map Value.list)
    | .pairs => Denoted.deeper ((Denoted.all (pairsDenoted items)).map Value.list)
    | tag => misplaced tag
  | mapping tag entries =>
    match tag with
    | .mapping => Denoted.deeper ((allEntriesDenoted entries).map objectOf)
    | .set => Denoted.deeper ((allEntriesDenoted entries).map setOf)
    | tag => if tag.isOfCollection then misplaced tag else denotedScalar tag (mapping tag entries)
  | enclosing _ => .ok .null

def itemsDenoted : List Node → List (Denoted Value)
  | [] => []
  | n :: ns => denoted n :: itemsDenoted ns

/-- The pairs of key and value that mappings with one entry denote. -/
def pairsDenoted : List Node → List (Denoted Value)
  | [] => []
  | mapping _ [(key, content)] :: ns =>
    Denoted.both (fun key value => .list [key, value]) (denoted key) (denoted content) :: pairsDenoted ns
  | _ :: ns => .fail 0 .malformed :: pairsDenoted ns

/-- The entries of a mapping, the merged ones first. -/
def allEntriesDenoted (entries : List (Node × Node)) : Denoted (List (Value × Value)) :=
  match entriesDenoted entries with
  | .ok (merged, own) => Denoted.all (merged ++ own)
  | .error fault => .fail 0 fault

/-- The entries that are merged into a mapping, and its own. -/
def entriesDenoted : List (Node × Node) → Except Fault (List DenotedEntry × List DenotedEntry)
  | [] => .ok ([], [])
  | (key, content) :: es =>
    if key.isMergeKey then do
      let merged ← mergedEntries content
      let (more, own) ← entriesDenoted es
      return (merged ++ more, own)
    else do
      let (merged, own) ← entriesDenoted es
      return (merged, Denoted.both Prod.mk key.denotedKey (denoted content) :: own)

/-- The entries that the content of a merge key adds: those of a mapping, or those of several, of which the
earlier ones win. -/
def mergedEntries : Node → Except Fault (List DenotedEntry)
  | scalar _ _ => .error .malformed
  | enclosing _ => .error .malformed
  | mapping _ entries => do
    let (merged, own) ← entriesDenoted entries
    return merged ++ own
  | sequence _ items => mergedItems items

def mergedItems : List Node → Except Fault (List DenotedEntry)
  | [] => .ok []
  | mapping _ entries :: ns => do
    let (merged, own) ← entriesDenoted entries
    return (← mergedItems ns) ++ (merged ++ own)
  | scalar _ _ :: _ => .error .malformed
  | sequence _ _ :: _ => .error .malformed
  | enclosing _ :: _ => .error .malformed

end

def value (n : Node) : Except Fault Value :=
  n.denoted.mapError (·.fault)

end Node

end SchemaScribe.Document.Yaml
