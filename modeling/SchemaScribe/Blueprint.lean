import SchemaScribe.ColumnType.Basic
import SchemaScribe.Options
import SchemaScribe.Relationship.Association
import SchemaScribe.Relationship.ForeignKeys

/-!
Blueprints: everything that follows from a diagram as a whole before any of its tables is rendered.
-/

namespace SchemaScribe

structure Blueprint where
  database : DatabaseType
  types : TypeContext
  relationships : List ClassifiedRelationship
  foreignKeys : ForeignKeys
  associations : List AssociationTable
  /-- The association tables that relationships find by the pair of their tables. -/
  associationIndex : List AssociationTable
  cascade : String
  deriving Repr, DecidableEq

namespace Blueprint

def ofRelationships (d : Diagram) (options : Options) (rs : List ClassifiedRelationship) : Blueprint where
  database := d.databaseType
  types := .ofDiagram d
  relationships := rs
  foreignKeys := ForeignKeys.ofRelationships rs
  associations := AssociationTable.ofRelationships d.databaseType rs
  associationIndex := AssociationTable.firstPerPair [] (AssociationTable.ofRelationships d.databaseType rs)
  cascade := options.cascade

/-- The association table of a relationship: the first one that joins its tables. -/
def associationFor? (b : Blueprint) (r : ClassifiedRelationship) : Option AssociationTable :=
  AssociationTable.forPair? b.associationIndex r.tablePair

end Blueprint

def Diagram.blueprint (d : Diagram) (options : Options) : Except DanglingReference Blueprint :=
  d.classifyAll.map (Blueprint.ofRelationships d options)

end SchemaScribe
