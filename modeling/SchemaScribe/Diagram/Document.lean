import SchemaScribe.Diagram.Basic
import SchemaScribe.Document.Check

/-!
The document form of diagrams. Every key has two spellings, and keys that an object does not declare are
not looked at. Empty schemas and cascades count as absent.
-/

namespace SchemaScribe

open Document

namespace FieldType

def check (entries : List (String × Value)) : Checked FieldType :=
  FieldType.mk
    <$> (Key.plain "name").required Check.nonEmptyText entries
    <*> (Key.plain "id").withDefault none (Check.optional Check.text) entries

end FieldType

namespace MaxLength

/-- A text stays as it was typed, but for halves of surrogate pairs. Of a value that is neither a text nor an
integer, the problems of both readings are given. -/
def check (v : Value) : Checked MaxLength :=
  match (Check.looseText v).under (.key "str"), (Check.integer v).under (.key "int") with
  | .valid s, _ => .valid (.text s.substituted)
  | .invalid _, .valid n => .valid (.number n)
  | .invalid textProblems, .invalid integerProblems => .invalid (textProblems ++ integerProblems)

end MaxLength

namespace Field

def check (entries : List (String × Value)) : Checked Field :=
  Field.mk
    <$> (Key.plain "id").required Check.looseText entries
    <*> (Key.plain "name").required Check.nonEmptyText entries
    <*> (Key.plain "type").required (Check.objectOf "FieldTypeSchema" FieldType.check) entries
    <*> (Key.mk "primaryKey" "primary_key").withDefault false Check.boolean entries
    <*> (Key.plain "nullable").withDefault true Check.boolean entries
    <*> (Key.plain "unique").withDefault false Check.boolean entries
    <*> (Option.getD · false) <$>
      (Key.plain "increment").withDefault none (Check.optional Check.boolean) entries
    <*> (Key.plain "default").withDefault none (Check.optional Check.text) entries
    <*> (Key.plain "precision").withDefault none (Check.optional Check.integer) entries
    <*> (Key.plain "scale").withDefault none (Check.optional Check.integer) entries
    <*> (Key.mk "characterMaximumLength" "character_maximum_length").withDefault none
      (Check.optional MaxLength.check) entries
    <*> (Key.plain "comments").withDefault none (Check.optional Check.text) entries

end Field

namespace Index

def check (entries : List (String × Value)) : Checked Index :=
  Index.mk
    <$> (Key.plain "name").required Check.text entries
    <*> (Key.mk "fieldIds" "field_ids").withDefault [] (Check.listOf Check.looseText) entries
    <*> (Key.plain "unique").withDefault false Check.boolean entries
    <*> (Option.getD · false) <$>
      (Key.mk "isPrimaryKey" "is_primary_key").withDefault none (Check.optional Check.boolean) entries
    <*> (Key.plain "id").withDefault none (Check.optional Check.text) entries

end Index

namespace Table

def check (entries : List (String × Value)) : Checked Table :=
  Table.mk
    <$> (Key.plain "id").required Check.looseText entries
    <*> (Key.plain "name").required Check.nonEmptyText entries
    <*> nonEmpty <$>
      (Key.mk "schema" "schema_name").withDefault none (Check.optional Check.text) entries
    <*> (Option.getD · false) <$>
      (Key.mk "isView" "is_view").withDefault none (Check.optional Check.boolean) entries
    <*> (Key.plain "fields").withDefault []
      (Check.listOf (Check.objectOf "FieldSchema" Field.check)) entries
    <*> (Key.plain "indexes").withDefault []
      (Check.listOf (Check.objectOf "IndexSchema" Index.check)) entries
    <*> (Key.plain "comments").withDefault none (Check.optional Check.text) entries

end Table

namespace Relationship

def check (entries : List (String × Value)) : Checked Relationship :=
  Relationship.mk
    <$> (Key.mk "sourceTableId" "source_table_id").required Check.looseText entries
    <*> (Key.mk "sourceFieldId" "source_field_id").required Check.looseText entries
    <*> (Key.mk "targetTableId" "target_table_id").required Check.looseText entries
    <*> (Key.mk "targetFieldId" "target_field_id").required Check.looseText entries
    <*> (Key.mk "sourceCardinality" "source_cardinality").withDefault .one
      (Check.choice Cardinality.names) entries
    <*> (Key.mk "targetCardinality" "target_cardinality").withDefault .many
      (Check.choice Cardinality.names) entries
    <*> (Key.plain "id").withDefault none (Check.optional Check.text) entries
    <*> (Key.plain "name").withDefault none (Check.optional Check.text) entries
    <*> nonEmpty <$> (Key.plain "cascade").withDefault none (Check.optional Check.text) entries

end Relationship

namespace CustomType

def check (entries : List (String × Value)) : Checked CustomType :=
  CustomType.mk
    <$> (Key.plain "name").required Check.looseText entries
    <*> (Key.plain "kind").withDefault .enumeration (Check.choice CustomTypeKind.names) entries
    <*> (Key.plain "values").withDefault [] (Check.listOf Check.text) entries
    <*> nonEmpty <$>
      (Key.mk "schema" "schema_name").withDefault none (Check.optional Check.text) entries
    <*> (Key.plain "id").withDefault none (Check.optional Check.text) entries

end CustomType

namespace Diagram

def check (entries : List (String × Value)) : Checked Diagram :=
  Diagram.mk
    <$> (Key.mk "databaseType" "database_type").withDefault .generic
      (Check.choice DatabaseType.names) entries
    <*> (Key.plain "tables").withDefault []
      (Check.listOf (Check.objectOf "TableSchema" Table.check)) entries
    <*> (Key.plain "relationships").withDefault []
      (Check.listOf (Check.objectOf "RelationshipSchema" Relationship.check)) entries
    <*> (Key.mk "customTypes" "custom_types").withDefault []
      (Check.listOf (Check.objectOf "CustomTypeSchema" CustomType.check)) entries
    <*> (Key.plain "name").withDefault none (Check.optional Check.text) entries
    <*> (Key.plain "id").withDefault none (Check.optional Check.text) entries

end Diagram

inductive DocumentError where
  | notAMapping (kind : String)
  | invalid (problems : List Problem)
  deriving Repr

namespace DocumentError

def message : DocumentError → String
  | notAMapping kind => s!"Diagram document must be a mapping, got {kind}"
  | invalid problems => "Diagram validation failed: " ++ Problem.renderAll problems

end DocumentError

def Diagram.ofValue : Value → Except DocumentError Diagram
  | .object entries =>
    match Diagram.check entries with
    | .valid d => .ok d
    | .invalid problems => .error (.invalid problems)
  | v => .error (.notAMapping v.kindWord)

end SchemaScribe
