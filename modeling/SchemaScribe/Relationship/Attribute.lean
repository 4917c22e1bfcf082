import SchemaScribe.Blueprint
import SchemaScribe.Naming
import SchemaScribe.Source

/-!
Relationship attributes: what the classes at the two ends of a relationship declare for it. Each names the
class at the far end, and the attribute there that leads back.
-/

namespace SchemaScribe

open Source

structure RelationshipAttribute where
  name : String
  targetClass : String
  isCollection : Bool
  keywords : List Keyword
  deriving Repr, DecidableEq

inductive Side where
  | first
  | second
  deriving Repr, DecidableEq

def Side.other : Side → Side
  | first => second
  | second => first

namespace ClassifiedRelationship

/-- The end at which a table stands. A table at both ends stands at the first. -/
def side? (r : ClassifiedRelationship) (t : Table) : Option Side :=
  if r.first.table.id = t.id then some .first
  else if r.second.table.id = t.id then some .second
  else none

/-- The table at an end. -/
def near (r : ClassifiedRelationship) : Side → Table
  | .first => r.first.table
  | .second => r.second.table

/-- The table at the other end. -/
def far (r : ClassifiedRelationship) : Side → Table
  | .first => r.second.table
  | .second => r.first.table

/-- Whether an end sees many rows at the other. -/
def seesMany (r : ClassifiedRelationship) (side : Side) : Bool :=
  match r.kind, side with
  | .oneToMany, .first => true
  | .oneToMany, .second => false
  | .oneToOne, _ => false
  | .manyToMany, _ => true

/-- The name of the attribute for rows of a table, many of them or one. -/
def attributeNameFor (t : Table) (many : Bool) : String :=
  if many then Naming.collectionAttribute t.name else Naming.scalarAttribute t.name

def attributeName (r : ClassifiedRelationship) (side : Side) : String :=
  attributeNameFor (r.far side) (r.seesMany side)

/-- The name of the attribute that leads back to an end. -/
def backName (r : ClassifiedRelationship) (side : Side) : String :=
  attributeNameFor (r.near side) (r.seesMany side.other)

end ClassifiedRelationship

namespace Blueprint

/-- The cascade policy of a relationship: its own, else that of the run. -/
def cascadeFor (b : Blueprint) (r : ClassifiedRelationship) : String :=
  (nonEmpty r.relationship.cascade).getD b.cascade

def lazyLoading : Keyword := ⟨"lazy", literal "selectin"⟩

def relationshipKeywords (b : Blueprint) (r : ClassifiedRelationship) (side : Side) : List Keyword :=
  let back : Keyword := ⟨"back_populates", literal (r.backName side)⟩
  match r.kind, side with
  | .oneToMany, .first => [back, lazyLoading, ⟨"cascade", literal (b.cascadeFor r)⟩]
  | .oneToMany, .second => [back, lazyLoading]
  | .oneToOne, _ => [⟨"uselist", "False"⟩, back, lazyLoading]
  | .manyToMany, _ =>
    (b.associationFor? r).toList.map (fun a => ⟨"secondary", a.name⟩) ++ [back, lazyLoading]

def relationshipAttribute (b : Blueprint) (r : ClassifiedRelationship) (side : Side) :
    RelationshipAttribute where
  name := r.attributeName side
  targetClass := Naming.pascalCase (r.far side).name
  isCollection := r.seesMany side
  keywords := b.relationshipKeywords r side

end Blueprint

namespace RelationshipAttribute

def render (a : RelationshipAttribute) : String :=
  let type := if a.isCollection then s!"list[{a.targetClass}]" else a.targetClass
  mappedAttribute a.name type (call "relationship" [literal a.targetClass] a.keywords)

end RelationshipAttribute

namespace Blueprint

/-- The line that a table declares for a relationship, if it is at one of the ends. -/
def relationshipLine? (b : Blueprint) (t : Table) (r : ClassifiedRelationship) : Option String :=
  (r.side? t).map fun side => (b.relationshipAttribute r side).render

/-- The lines that a table declares for all relationships, in their order and without repetitions. -/
def relationshipLines (b : Blueprint) (t : Table) : List String :=
  ((b.relationships.filter (·.touches t)).filterMap (b.relationshipLine? t)).eraseDups

end Blueprint

end SchemaScribe
