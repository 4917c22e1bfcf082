import SchemaScribe.ColumnType.Basic

/-!
The types that values have in the generated source. They follow from the declared name alone, whatever the
database.
-/

namespace SchemaScribe

inductive ValueType where
  | integer
  | decimal
  | float
  | text
  | date
  | dateTime
  | time
  | boolean
  | bytes
  | dictionary
  deriving Repr, DecidableEq

/-- The type of an attribute: of one value, or of a list of them. -/
inductive AttributeType where
  | single (type : ValueType)
  | list (type : ValueType)
  deriving Repr, DecidableEq

namespace ValueType

open DeclaredName

/-- The values of a lower-case type name; text where the name is not known. -/
def ofName (t : String) : ValueType :=
  if integers.contains t || bigIntegers.contains t || smallIntegers.contains t then integer
  else if numerics.contains t then decimal
  else if floats.contains t then float
  else if isVarchar t || strings.contains t || t = "text" then text
  else if t = "date" then date
  else if isTimestamp t || dateTimes.contains t then dateTime
  else if t = "time" then time
  else if booleans.contains t || isTinyint t then boolean
  else if binaries.contains t then bytes
  else if jsons.contains t then dictionary
  else text

def render : ValueType → String
  | integer => "int"
  | decimal => "Decimal"
  | float => "float"
  | text => "str"
  | date => "datetime.date"
  | dateTime => "datetime.datetime"
  | time => "datetime.time"
  | boolean => "bool"
  | bytes => "bytes"
  | dictionary => "dict[str, Any]"

end ValueType

namespace AttributeType

def ofDeclaredName (declared : String) : AttributeType :=
  match DeclaredName.arrayElement? declared with
  | some element => list (.ofName (Text.lower element))
  | none => single (.ofName (Text.lower declared))

def render : AttributeType → String
  | single type => type.render
  | list type => s!"list[{type.render}]"

end AttributeType

/-- The type of the values of a declared name. The values of an enumeration are texts. -/
def TypeContext.attributeType (ctx : TypeContext) (declared : String) : AttributeType :=
  match ctx.enumerations.lookup declared with
  | some _ => .single .text
  | none => .ofDeclaredName declared

end SchemaScribe
