import SchemaScribe.Diagram.Basic
import SchemaScribe.Source

/-!
The constraints that a table declares as a whole: its composite primary key, then the unique constraints
and indexes that say something new.
-/

namespace SchemaScribe

inductive ConstraintKind where
  | primaryKey
  | unique
  | index
  deriving Repr, DecidableEq

/-- A constraint over columns, in index order. Primary keys have no name. -/
structure TableConstraint where
  kind : ConstraintKind
  columns : List String
  name : String
  deriving Repr, DecidableEq

inductive IndexFate where
  | declared (constraint : TableConstraint)
  | empty
  | isPrimaryKey
  | duplicatesPrimaryKey
  | alreadyUnique
  deriving Repr, DecidableEq

namespace ConstraintKind

def name : ConstraintKind → String
  | primaryKey => "primary_key"
  | unique => "unique"
  | index => "index"

end ConstraintKind

namespace Table

/-- The fields of an index; ids that the table does not have are passed over. -/
def indexFields (t : Table) (i : Index) : List Field :=
  i.fieldIds.filterMap t.field?

/-- Whether two lists have the same members. -/
def sameMembers (xs ys : List String) : Bool :=
  xs.all ys.contains && ys.all xs.contains

def primaryKeyNames (t : Table) : List String :=
  t.primaryKeyFields.map (·.name)

/-- An index over the primary key is dropped, and so is a unique index over a single unique field. -/
def indexFate (t : Table) (i : Index) : IndexFate :=
  let fields := t.indexFields i
  let columns := fields.map (·.name)
  if i.isPrimaryKey then .isPrimaryKey
  else if fields.isEmpty then .empty
  else if sameMembers columns t.primaryKeyNames then .duplicatesPrimaryKey
  else if !i.unique then .declared ⟨.index, columns, i.name⟩
  else if fields.length = 1 && fields.all (·.unique) then .alreadyUnique
  else .declared ⟨.unique, columns, i.name⟩

def primaryKeyConstraint? (t : Table) : Option TableConstraint :=
  if t.hasCompositePrimaryKey then some ⟨.primaryKey, t.primaryKeyNames, ""⟩ else none

def indexConstraint? (t : Table) (i : Index) : Option TableConstraint :=
  match t.indexFate i with
  | .declared constraint => some constraint
  | _ => none

def constraints (t : Table) : List TableConstraint :=
  t.primaryKeyConstraint?.toList ++ t.indexes.filterMap t.indexConstraint?

end Table

namespace TableConstraint

open Source

def render (c : TableConstraint) : String :=
  let columns := c.columns.map literal
  match c.kind with
  | .primaryKey => call "sa.PrimaryKeyConstraint" columns []
  | .unique => call "sa.UniqueConstraint" columns [⟨"name", literal c.name⟩]
  | .index => call "sa.Index" (literal c.name :: columns) []

end TableConstraint

/-- The arguments that a table declares: its constraints, then its schema. -/
def Table.arguments (t : Table) (schema : Option String) : List String :=
  t.constraints.map TableConstraint.render
    ++ (nonEmpty schema).toList.map fun s => "\x7b\"schema\": " ++ Source.literal s ++ "\x7d"

end SchemaScribe
