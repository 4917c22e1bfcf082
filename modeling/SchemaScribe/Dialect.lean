import SchemaScribe.Diagram.Basic

/-!
Dialects: groups of databases with column types of their own, which a generated module has to import by
name.
-/

namespace SchemaScribe

inductive Dialect where
  | postgresql
  | mysql
  | mssql
  deriving Repr, DecidableEq

/-- A type that is imported from the types of a dialect. -/
structure DialectSymbol where
  dialect : Dialect
  name : String
  deriving Repr, DecidableEq

namespace Dialect

/-- The dialects in the order of their import lines. -/
def all : List Dialect :=
  [postgresql, mysql, mssql]

def name : Dialect → String
  | postgresql => "postgresql"
  | mysql => "mysql"
  | mssql => "mssql"

def ofName? (name : String) : Option Dialect :=
  all.find? (·.name = name)

end Dialect

def DatabaseType.dialect? : DatabaseType → Option Dialect
  | postgresql => some .postgresql
  | cockroachdb => some .postgresql
  | mysql => some .mysql
  | mariadb => some .mysql
  | sqlServer => some .mssql
  | _ => none

end SchemaScribe
