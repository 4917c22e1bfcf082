import SchemaScribe.Entries
import SchemaScribe.Relationship.Classified

/-!
Where the foreign keys of a diagram are. A one-to-many relationship puts one on its many side, a one-to-one
relationship on its source, and a many-to-many relationship on neither. A field claimed again refers to the
later end.
-/

namespace SchemaScribe

/-- The ids of the table and the field that hold a foreign key, with the end that it refers to. -/
abbrev ForeignKeys := List ((LooseText × LooseText) × Endpoint)

namespace ClassifiedRelationship

/-- The field that holds the foreign key of a relationship, and the field that it refers to. -/
def foreignKey? (r : ClassifiedRelationship) : Option (Endpoint × Endpoint) :=
  match r.kind with
  | .oneToMany => some (r.second, r.first)
  | .oneToOne => some (r.first, r.second)
  | .manyToMany => none

end ClassifiedRelationship

namespace ForeignKeys

def holder (e : Endpoint) : LooseText × LooseText :=
  (e.table.id, e.field.id)

def claims (rs : List ClassifiedRelationship) : ForeignKeys :=
  rs.filterMap fun r => r.foreignKey?.map fun (holding, referenced) => (holder holding, referenced)

def ofRelationships (rs : List ClassifiedRelationship) : ForeignKeys :=
  Entries.ofList (claims rs)

/-- The end that a field of a table refers to. -/
def target? (keys : ForeignKeys) (t : Table) (f : Field) : Option Endpoint :=
  keys.lookup (t.id, f.id)

end ForeignKeys

end SchemaScribe
