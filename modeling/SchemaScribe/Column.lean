import SchemaScribe.Column.ServerDefault
import SchemaScribe.ColumnType.ValueType
import SchemaScribe.Naming
import SchemaScribe.Relationship.Classified

/-!
Columns: the attribute that a class declares for a field.
-/

namespace SchemaScribe

open Source

structure Column where
  attributeName : String
  type : AttributeType
  arguments : List String
  keywords : List Keyword
  comments : List String
  symbol : Option DialectSymbol
  deriving Repr, DecidableEq

namespace Field

/-- Whether a lower-case name is `suffix` or ends in `suffix` after an underscore, one line feed at the
end not counted. -/
def endsInWords (suffix name : List Char) : Bool :=
  let isSuffix (cs : List Char) := cs = suffix || ('_' :: suffix).isSuffixOf cs
  isSuffix name || isSuffix (Text.withoutFinalLineFeed name)

def isCreationTime (f : Field) : Bool :=
  endsInWords "created_at".toList (Text.lowerChars f.name.toList)

def isUpdateTime (f : Field) : Bool :=
  endsInWords "updated_at".toList (Text.lowerChars f.name.toList)

def serverNow : String := "sa.func.now()"

/-- The keywords for the value of a field that is given none. A declared default is used unless the field
counts up; without one, the name of the field may ask for the time of creation or of the last update. -/
def defaultKeywords (f : Field) : List Keyword :=
  match nonEmpty f.default with
  | some default => if f.increment then [] else [⟨"server_default", ServerDefault.expression default⟩]
  | none =>
    (if f.isCreationTime then [⟨"server_default", serverNow⟩] else [])
      ++ (if f.isUpdateTime then [⟨"server_default", serverNow⟩, ⟨"onupdate", serverNow⟩] else [])

def isUuid (f : Field) : Bool :=
  f.typeName = "uuid"

/-- The keywords of a field's column. The members of a composite primary key are not marked one by one. -/
def keywords (f : Field) (compositeKey : Bool) (foreignKey : Option Endpoint) : List Keyword :=
  (if f.primaryKey && !compositeKey then [⟨"primary_key", "True"⟩] else [])
    ++ (if f.increment then [⟨"autoincrement", "True"⟩] else [])
    ++ (if f.nullable then [] else [⟨"nullable", "False"⟩])
    ++ (if f.unique && !f.primaryKey then [⟨"unique", "True"⟩] else [])
    ++ f.defaultKeywords
    ++ (if foreignKey.isSome then [⟨"index", "True"⟩] else [])
    ++ (if f.isUuid then [⟨"default", "uuid.uuid4"⟩] else [])

def foreignKeyArgument (e : Endpoint) : String :=
  call "sa.ForeignKey" [literal e.reference] []

/-- The column of a field, given whether the primary key of its table is composite, and the end that the
field refers to if it holds a foreign key. -/
def column (f : Field) (ctx : TypeContext) (compositeKey : Bool) (foreignKey : Option Endpoint) :
    Except OversizedNumber Column :=
  let columnType := ctx.columnType f.type.name
  (columnType.expression f).map fun expression => {
    attributeName := Naming.sanitize f.name
    type := ctx.attributeType f.type.name
    arguments := expression :: foreignKey.toList.map foreignKeyArgument
    keywords := f.keywords compositeKey foreignKey
    comments := commentLines f.comments indent
    symbol := columnType.symbol? }

end Field

namespace Column

def render (c : Column) : String :=
  let declaration :=
    mappedAttribute c.attributeName c.type.render (call "mapped_column" c.arguments c.keywords)
  "\n".intercalate (c.comments ++ [declaration])

end Column

end SchemaScribe
