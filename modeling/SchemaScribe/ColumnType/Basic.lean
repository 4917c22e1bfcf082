import SchemaScribe.ColumnType.DeclaredName
import SchemaScribe.ColumnType.Enumeration
import SchemaScribe.ColumnType.MaxLength
import SchemaScribe.Dialect
import SchemaScribe.Text.Quoted

/-!
Column types and the rules that choose one for a declared type name. An enumeration of that name comes
first, then the types of the dialect, then the types that all databases share; what remains is a string
without a size.
-/

namespace SchemaScribe

/-- A type without elements. Sizes and precisions are taken from the field that has the type. -/
inductive ScalarType where
  | integer
  | bigInteger
  | smallInteger
  | numeric
  | float
  | unsizedString
  | string
  | unicode
  | text
  | date
  | dateTime
  | zonedDateTime
  | time
  | interval
  | boolean
  | binary
  | json
  | dialect (symbol : DialectSymbol)
  deriving Repr, DecidableEq

inductive ElementType where
  | enumeration (name : String) (type : Enumeration)
  | scalar (type : ScalarType)
  deriving Repr, DecidableEq

/-- Arrays have one level. -/
inductive ColumnType where
  | single (element : ElementType)
  | array (element : ElementType)
  deriving Repr, DecidableEq

namespace ScalarType

open DeclaredName

def postgresqlNames : List (String × ScalarType) :=
  [("inet", .dialect ⟨.postgresql, "INET"⟩), ("cidr", .dialect ⟨.postgresql, "CIDR"⟩),
    ("macaddr", .dialect ⟨.postgresql, "MACADDR"⟩), ("citext", .dialect ⟨.postgresql, "CITEXT"⟩),
    ("hstore", .dialect ⟨.postgresql, "HSTORE"⟩), ("money", .dialect ⟨.postgresql, "MONEY"⟩),
    ("interval", .interval)]

def mysqlNames : List (String × ScalarType) :=
  [("mediumtext", .dialect ⟨.mysql, "MEDIUMTEXT"⟩), ("longtext", .dialect ⟨.mysql, "LONGTEXT"⟩),
    ("year", .dialect ⟨.mysql, "YEAR"⟩), ("set", .dialect ⟨.mysql, "SET"⟩)]

def mssqlNames : List (String × ScalarType) :=
  [("datetime2", .dialect ⟨.mssql, "DATETIME2"⟩),
    ("smalldatetime", .dialect ⟨.mssql, "SMALLDATETIME"⟩),
    ("money", .dialect ⟨.mssql, "MONEY"⟩),
    ("uniqueidentifier", .dialect ⟨.mssql, "UNIQUEIDENTIFIER"⟩)]

/-- The type of universally unique identifiers; a string where the database has none. -/
def uuid : Option Dialect → ScalarType
  | some .postgresql => .dialect ⟨.postgresql, "UUID"⟩
  | some .mssql => .dialect ⟨.mssql, "UNIQUEIDENTIFIER"⟩
  | _ => .unsizedString

def jsonType : Option Dialect → ScalarType
  | some .postgresql => .dialect ⟨.postgresql, "JSONB"⟩
  | some .mysql => .dialect ⟨.mysql, "JSON"⟩
  | _ => .json

/-- The names with a meaning in one dialect only. -/
def ofDialectName? (dialect : Option Dialect) (t : String) : Option ScalarType :=
  match dialect with
  | some .postgresql => postgresqlNames.lookup t
  | some .mysql => (mysqlNames.lookup t).or (if isTinyint t then some .boolean else none)
  | some .mssql =>
    (mssqlNames.lookup t).or (if unicodeStrings.contains t then some .unicode else none)
  | none => none

/-- The names with one meaning in all databases. -/
def ofCommonName? (t : String) : Option ScalarType :=
  if integers.contains t then some .integer
  else if bigIntegers.contains t then some .bigInteger
  else if smallIntegers.contains t || isTinyint t then some .smallInteger
  else if numerics.contains t then some .numeric
  else if floats.contains t then some .float
  else if isVarchar t || strings.contains t then some .string
  else if t = "text" then some .text
  else if t = "date" then some .date
  else if isTimestamp t then some .zonedDateTime
  else if t = "datetime" then some .dateTime
  else if t = "time" then some .time
  else if booleans.contains t then some .boolean
  else if binaries.contains t then some .binary
  else none

/-- The type that a lower-case name has in a database, if it is known there. -/
def ofName? (db : DatabaseType) (t : String) : Option ScalarType :=
  if t = "uuid" then some (uuid db.dialect?)
  else if jsons.contains t then some (jsonType db.dialect?)
  else (ofDialectName? db.dialect? t).or (ofCommonName? t)

def ofName (db : DatabaseType) (t : String) : ScalarType :=
  (ofName? db t).getD .unsizedString

def symbol? : ScalarType → Option DialectSymbol
  | dialect symbol => some symbol
  | _ => none

/-- A precision of zero counts as none, and so does a scale of zero. -/
def numericExpression (f : Field) : Except OversizedNumber String := do
  let precision := f.precision.getD 0
  let scale := f.scale.getD 0
  if precision = 0 then return "sa.Numeric"
  let precisionText ← OversizedNumber.write precision
  if scale = 0 then return s!"sa.Numeric(precision={precisionText})"
  return s!"sa.Numeric(precision={precisionText}, scale={← OversizedNumber.write scale})"

/-- The expression of a string type: `sized` with the size of a field, or `unsized` if it declares none. -/
def sizedExpression (f : Field) (sized unsized : String) : Except OversizedNumber String := do
  match ← f.size? with
  | some size => return s!"{sized}({← OversizedNumber.write size})"
  | none => return unsized

/-- The expression of the type in generated source, with the details of a field. -/
def expression (f : Field) : ScalarType → Except OversizedNumber String
  | integer => .ok "sa.Integer"
  | bigInteger => .ok "sa.BigInteger"
  | smallInteger => .ok "sa.SmallInteger"
  | numeric => numericExpression f
  | float => .ok "sa.Float"
  | unsizedString => .ok "sa.String"
  | string => sizedExpression f "sa.String" "sa.String"
  | unicode => sizedExpression f "sa.Unicode" "sa.UnicodeText"
  | text => .ok "sa.Text"
  | date => .ok "sa.Date"
  | dateTime => .ok "sa.DateTime"
  | zonedDateTime => .ok "sa.DateTime(timezone=True)"
  | time => .ok "sa.Time"
  | interval => .ok "sa.Interval"
  | boolean => .ok "sa.Boolean"
  | binary => .ok "sa.LargeBinary"
  | json => .ok "sa.JSON"
  | dialect symbol => .ok symbol.name

end ScalarType

namespace Enumeration

def expression (name : String) (e : Enumeration) : String :=
  let values := ", ".intercalate (e.values.map Text.doubleQuoted)
  let schema :=
    match e.schema with
    | some schema => s!", schema=\"{schema}\""
    | none => ""
  s!"sa.Enum({values}, name=\"{name}\"{schema})"

end Enumeration

namespace ElementType

def symbol? : ElementType → Option DialectSymbol
  | enumeration _ _ => none
  | scalar type => type.symbol?

def expression (f : Field) : ElementType → Except OversizedNumber String
  | enumeration name type => .ok (type.expression name)
  | scalar type => type.expression f

end ElementType

/-- What decides the types of the fields of a diagram: its database and its enumerations. -/
structure TypeContext where
  database : DatabaseType
  enumerations : List (String × Enumeration)
  deriving Repr, DecidableEq

namespace TypeContext

def ofDiagram (d : Diagram) : TypeContext :=
  ⟨d.databaseType, Enumeration.ofCustomTypes d.customTypes⟩

/-- The type of a name that is no array: an enumeration by exact spelling, else a scalar type. -/
def elementType (ctx : TypeContext) (declared : String) : ElementType :=
  match ctx.enumerations.lookup declared with
  | some type => .enumeration declared type
  | none => .scalar (.ofName ctx.database (Text.lower declared))

/-- The type of a declared name. Array marks within an element type have no meaning. -/
def columnType (ctx : TypeContext) (declared : String) : ColumnType :=
  match ctx.enumerations.lookup declared with
  | some type => .single (.enumeration declared type)
  | none =>
    match DeclaredName.arrayElement? declared with
    | some element => .array (ctx.elementType element)
    | none => .single (.scalar (.ofName ctx.database (Text.lower declared)))

/-- Whether no type is known by a declared name, so that a string takes its place. -/
def isUnknown (ctx : TypeContext) (declared : String) : Bool :=
  let unknownElement (element : String) : Bool :=
    (ctx.enumerations.lookup element).isNone
      && (ScalarType.ofName? ctx.database (Text.lower element)).isNone
  (ctx.enumerations.lookup declared).isNone
    && unknownElement ((DeclaredName.arrayElement? declared).getD declared)

end TypeContext

namespace ColumnType

def symbol? : ColumnType → Option DialectSymbol
  | single element => element.symbol?
  | array element => element.symbol?

def expression (f : Field) : ColumnType → Except OversizedNumber String
  | single element => element.expression f
  | array element => (element.expression f).map fun e => s!"sa.ARRAY({e})"

end ColumnType

end SchemaScribe
