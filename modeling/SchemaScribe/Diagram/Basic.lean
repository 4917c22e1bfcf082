import SchemaScribe.LooseText
import SchemaScribe.Text.Case
import SchemaScribe.UnknownWord

/-!
Diagrams of relational schemas: tables with their columns and indexes, relationships between columns, and
custom types. Tables, fields and custom types are found by id or name, and the first match counts.
-/

namespace SchemaScribe

/-- Absent where the text is empty. -/
def nonEmpty (s : Option String) : Option String :=
  s.filter (· ≠ "")

inductive DatabaseType where
  | generic
  | postgresql
  | mysql
  | sqlServer
  | mariadb
  | sqlite
  | clickhouse
  | cockroachdb
  | oracle
  deriving Repr, DecidableEq

/-- How many rows of one end of a relationship go with a row of the other end. -/
inductive Cardinality where
  | one
  | many
  deriving Repr, DecidableEq

inductive CustomTypeKind where
  | enumeration
  | composite
  deriving Repr, DecidableEq

structure FieldType where
  name : String
  id : Option String
  deriving Repr, DecidableEq

inductive MaxLength where
  | number (n : Int)
  | text (s : String)
  deriving Repr, DecidableEq

/-- A column of a table. The default is free text. -/
structure Field where
  id : LooseText
  name : String
  type : FieldType
  primaryKey : Bool := false
  nullable : Bool := true
  unique : Bool := false
  increment : Bool := false
  default : Option String := none
  precision : Option Int := none
  scale : Option Int := none
  maxLength : Option MaxLength := none
  comments : Option String := none
  deriving Repr, DecidableEq

structure Index where
  name : String
  fieldIds : List LooseText := []
  unique : Bool := false
  isPrimaryKey : Bool := false
  id : Option String := none
  deriving Repr, DecidableEq

structure Table where
  id : LooseText
  name : String
  schema : Option String := none
  isView : Bool := false
  fields : List Field := []
  indexes : List Index := []
  comments : Option String := none
  deriving Repr, DecidableEq

/-- A relationship between two fields, each named by the ids of its table and itself. -/
structure Relationship where
  sourceTableId : LooseText
  sourceFieldId : LooseText
  targetTableId : LooseText
  targetFieldId : LooseText
  sourceCardinality : Cardinality := .one
  targetCardinality : Cardinality := .many
  id : Option String := none
  name : Option String := none
  cascade : Option String := none
  deriving Repr, DecidableEq

structure CustomType where
  name : LooseText
  kind : CustomTypeKind := .enumeration
  values : List String := []
  schema : Option String := none
  id : Option String := none
  deriving Repr, DecidableEq

structure Diagram where
  databaseType : DatabaseType := .generic
  tables : List Table := []
  relationships : List Relationship := []
  customTypes : List CustomType := []
  name : Option String := none
  id : Option String := none
  deriving Repr, DecidableEq

namespace DatabaseType

def names : List (String × DatabaseType) :=
  [("generic", generic), ("postgresql", postgresql), ("mysql", mysql), ("sql_server", sqlServer),
    ("mariadb", mariadb), ("sqlite", sqlite), ("clickhouse", clickhouse), ("cockroachdb", cockroachdb),
    ("oracle", oracle)]

def ofName? (name : String) : Option DatabaseType :=
  names.lookup name

def ofName (name : String) : Except UnknownWord DatabaseType :=
  match ofName? name with
  | some db => .ok db
  | none => .error ⟨name, "DatabaseType"⟩

def name : DatabaseType → String
  | generic => "generic"
  | postgresql => "postgresql"
  | mysql => "mysql"
  | sqlServer => "sql_server"
  | mariadb => "mariadb"
  | sqlite => "sqlite"
  | clickhouse => "clickhouse"
  | cockroachdb => "cockroachdb"
  | oracle => "oracle"

/-- The schema of a table that names none, where the database has one. -/
def defaultSchema : DatabaseType → Option String
  | postgresql => some "public"
  | cockroachdb => some "public"
  | sqlServer => some "dbo"
  | clickhouse => some "default"
  | _ => none

theorem ofName?_name (db : DatabaseType) : ofName? db.name = some db := by
  cases db <;> decide

end DatabaseType

namespace Cardinality

def names : List (String × Cardinality) :=
  [("one", one), ("many", many)]

def ofName? (name : String) : Option Cardinality :=
  names.lookup name

def ofName (name : String) : Except UnknownWord Cardinality :=
  match ofName? name with
  | some c => .ok c
  | none => .error ⟨name, "Cardinality"⟩

def name : Cardinality → String
  | one => "one"
  | many => "many"

theorem ofName?_name (c : Cardinality) : ofName? c.name = some c := by
  cases c <;> decide

end Cardinality

namespace CustomTypeKind

def names : List (String × CustomTypeKind) :=
  [("enum", enumeration), ("composite", composite)]

def name : CustomTypeKind → String
  | enumeration => "enum"
  | composite => "composite"

end CustomTypeKind

namespace Field

/-- The declared type name in the letter case in which types are compared. -/
def typeName (f : Field) : String :=
  Text.lower f.type.name

end Field

namespace Table

def primaryKeyFields (t : Table) : List Field :=
  t.fields.filter (·.primaryKey)

def hasCompositePrimaryKey (t : Table) : Bool :=
  1 < t.primaryKeyFields.length

def field? (t : Table) (id : LooseText) : Option Field :=
  t.fields.find? (·.id = id)

/-- The schema that the table names; the empty name is none. -/
def ownSchema (t : Table) : Option String :=
  nonEmpty t.schema

/-- The schema that the class of a table declares. -/
def effectiveSchema (t : Table) (db : DatabaseType) : Option String :=
  t.ownSchema.or db.defaultSchema

end Table

namespace Diagram

def table? (d : Diagram) (id : LooseText) : Option Table :=
  d.tables.find? (·.id = id)

end Diagram

end SchemaScribe
