import SchemaScribe.Text.Case
import SchemaScribe.Text.Search

/-!
Declared type names. Names are compared in lower case, and several names mean the same type. A name that
ends in brackets declares an array of the type before them.
-/

namespace SchemaScribe.DeclaredName

open Text

def integers : List String := ["integer", "int", "int4", "serial", "mediumint"]

def bigIntegers : List String := ["bigint", "int8", "bigserial"]

def smallIntegers : List String := ["smallint", "int2", "smallserial"]

def numerics : List String := ["decimal", "numeric"]

def floats : List String := ["double", "double precision", "float8", "real", "float", "float4"]

def strings : List String := ["character varying", "char", "character"]

def booleans : List String := ["boolean", "bool"]

def binaries : List String := ["bytea", "blob", "binary", "varbinary"]

def jsons : List String := ["json", "jsonb"]

def unicodeStrings : List String := ["nvarchar", "nchar", "ntext"]

/-- The names whose values are points in time, apart from timestamps. -/
def dateTimes : List String := ["datetime2", "smalldatetime", "datetime"]

def isVarchar (t : String) : Bool :=
  contains "varchar".toList t.toList

def isTimestamp (t : String) : Bool :=
  contains "timestamp".toList t.toList

def isTinyint (t : String) : Bool :=
  "tinyint".toList.isPrefixOf t.toList

def arraySuffix : List Char := ['[', ']']

/-- The element type of an array type: the name before the brackets, or "text" for the name "array". -/
def arrayElement? (declared : String) : Option String :=
  if arraySuffix.isSuffixOf declared.toList then
    some (String.ofList (declared.toList.take (declared.toList.length - 2)))
  else if lower declared = "array" then some "text"
  else none

end SchemaScribe.DeclaredName
