import SchemaScribe.Naming
import SchemaScribe.Relationship.Classified

/-!
Association tables. Each many-to-many relationship gets one, with a column for either end; relationships
between the same tables in the same order share the first.
-/

namespace SchemaScribe

structure AssociationColumn where
  name : String
  target : Endpoint
  deriving Repr, DecidableEq

structure AssociationTable where
  name : String
  left : AssociationColumn
  right : AssociationColumn
  schema : Option String
  ordinal : Nat
  deriving Repr, DecidableEq

namespace AssociationColumn

def ofEndpoint (e : Endpoint) : AssociationColumn :=
  ⟨Naming.sanitize e.field.name, e⟩

end AssociationColumn

namespace AssociationTable

def tablePair (a : AssociationTable) : LooseText × LooseText :=
  (a.left.target.table.id, a.right.target.table.id)

/-- The schema is that of the first joined table that names one, else the default. -/
def ofRelationship? (db : DatabaseType) (r : ClassifiedRelationship) : Option AssociationTable :=
  if r.kind = .manyToMany then
    some {
      name := Naming.associationName Naming.associationMark r.first.table.name r.second.table.name r.ordinal
      left := .ofEndpoint r.first
      right := .ofEndpoint r.second
      schema := (r.first.table.ownSchema.or r.second.table.ownSchema).or db.defaultSchema
      ordinal := r.ordinal }
  else none

def ofRelationships (db : DatabaseType) (rs : List ClassifiedRelationship) : List AssociationTable :=
  rs.filterMap (ofRelationship? db)

/-- Whether the schema of an association table is the default one. -/
def takesDefaultSchema (r : ClassifiedRelationship) : Bool :=
  r.kind = .manyToMany && (r.first.table.ownSchema.or r.second.table.ownSchema).isNone

/-- The association tables in a database that is given by a word. The word is read only where the default
schema is needed. -/
def ofRelationshipsIn (word : String) (rs : List ClassifiedRelationship) :
    Except UnknownWord (List AssociationTable) :=
  match DatabaseType.ofName word with
  | .ok db => .ok (ofRelationships db rs)
  | .error e =>
    if rs.any takesDefaultSchema then .error e else .ok (ofRelationships .generic rs)

/-- The first association table that joins a pair of tables. -/
def forPair? (associations : List AssociationTable) (pair : LooseText × LooseText) :
    Option AssociationTable :=
  associations.find? (·.tablePair = pair)

/-- The first association table of each pair, leaving out pairs that were seen before. -/
def firstPerPair (seen : List (LooseText × LooseText)) : List AssociationTable → List AssociationTable
  | [] => []
  | a :: rest =>
    if seen.contains a.tablePair then firstPerPair seen rest
    else a :: firstPerPair (a.tablePair :: seen) rest

end AssociationTable

end SchemaScribe
