import SchemaScribe.Diagram.Basic

/-!
Classified relationships. A relationship is classified by looking up the fields that it names and by the
cardinalities of its ends; a relationship that names something the diagram does not have is refused.
-/

namespace SchemaScribe

structure Endpoint where
  table : Table
  field : Field
  deriving Repr, DecidableEq

inductive RelationshipKind where
  | oneToMany
  | oneToOne
  | manyToMany
  deriving Repr, DecidableEq

/-- A relationship with its ends. The "one" side of a one-to-many relationship comes first; otherwise the
ends are in the order in which they were declared. The ordinal is the place in the diagram. -/
structure ClassifiedRelationship where
  kind : RelationshipKind
  first : Endpoint
  second : Endpoint
  relationship : Relationship
  ordinal : Nat
  deriving Repr, DecidableEq

inductive DanglingReference where
  | unknownTable (relationshipId : Option String) (tableId : LooseText)
  | unknownField (relationshipId : Option String) (tableId : LooseText) (tableName : String) (fieldId : LooseText)
  deriving Repr, DecidableEq

namespace Endpoint

/-- The field as foreign keys refer to it: with its table, and with the schema that the table names. -/
def reference (e : Endpoint) : String :=
  ".".intercalate (e.table.ownSchema.toList ++ [e.table.name, e.field.name])

end Endpoint

namespace RelationshipKind

def name : RelationshipKind → String
  | oneToMany => "one_to_many"
  | oneToOne => "one_to_one"
  | manyToMany => "many_to_many"

end RelationshipKind

namespace ClassifiedRelationship

def ofEndpoints (r : Relationship) (ordinal : Nat) (source target : Endpoint)
    (sourceCardinality targetCardinality : Cardinality) : ClassifiedRelationship :=
  match sourceCardinality, targetCardinality with
  | .one, .many => ⟨.oneToMany, source, target, r, ordinal⟩
  | .many, .one => ⟨.oneToMany, target, source, r, ordinal⟩
  | .one, .one => ⟨.oneToOne, source, target, r, ordinal⟩
  | .many, .many => ⟨.manyToMany, source, target, r, ordinal⟩

/-- Whether a table is at one of the ends. -/
def touches (r : ClassifiedRelationship) (t : Table) : Bool :=
  r.first.table.id = t.id || r.second.table.id = t.id

def tablePair (r : ClassifiedRelationship) : LooseText × LooseText :=
  (r.first.table.id, r.second.table.id)

end ClassifiedRelationship

namespace Diagram

def endpoint (d : Diagram) (relationshipId : Option String) (tableId fieldId : LooseText) :
    Except DanglingReference Endpoint :=
  match d.table? tableId with
  | none => .error (.unknownTable relationshipId tableId)
  | some t =>
    match t.field? fieldId with
    | none => .error (.unknownField relationshipId tableId t.name fieldId)
    | some f => .ok ⟨t, f⟩

def endpoints (d : Diagram) (r : Relationship) : Except DanglingReference (Endpoint × Endpoint) :=
  match d.endpoint r.id r.sourceTableId r.sourceFieldId with
  | .error e => .error e
  | .ok source =>
    match d.endpoint r.id r.targetTableId r.targetFieldId with
    | .error e => .error e
    | .ok target => .ok (source, target)

def classify (d : Diagram) (r : Relationship) (ordinal : Nat) :
    Except DanglingReference ClassifiedRelationship :=
  match d.endpoints r with
  | .error e => .error e
  | .ok (source, target) =>
    .ok (.ofEndpoints r ordinal source target r.sourceCardinality r.targetCardinality)

/-- Classifies relationships in order, the first one at place `ordinal`. -/
def classifyFrom (d : Diagram) (ordinal : Nat) :
    List Relationship → Except DanglingReference (List ClassifiedRelationship)
  | [] => .ok []
  | r :: rs =>
    match d.classify r ordinal with
    | .error e => .error e
    | .ok c =>
      match d.classifyFrom (ordinal + 1) rs with
      | .error e => .error e
      | .ok cs => .ok (c :: cs)

def classifyAll (d : Diagram) : Except DanglingReference (List ClassifiedRelationship) :=
  d.classifyFrom 0 d.relationships

/-- Why a relationship whose cardinalities are words cannot be classified. -/
inductive ClassificationError where
  | dangling (reference : DanglingReference)
  | unknownCardinality (word : UnknownWord)
  deriving Repr, DecidableEq

/-- Classifies a relationship whose cardinalities are given as words. The ends are looked up before the
words are read, and the source comes before the target. -/
def classifyWords (d : Diagram) (r : Relationship) (sourceWord targetWord : String) (ordinal : Nat) :
    Except ClassificationError ClassifiedRelationship :=
  match d.endpoints r with
  | .error e => .error (.dangling e)
  | .ok (source, target) =>
    match Cardinality.ofName sourceWord with
    | .error word => .error (.unknownCardinality word)
    | .ok sourceCardinality =>
      match Cardinality.ofName targetWord with
      | .error word => .error (.unknownCardinality word)
      | .ok targetCardinality =>
        .ok (.ofEndpoints r ordinal source target sourceCardinality targetCardinality)

end Diagram

end SchemaScribe
