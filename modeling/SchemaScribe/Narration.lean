import SchemaScribe.Console
import SchemaScribe.ModelsModule

/-!
What a generation run tells on the way: how relationships are classified, which association tables there
are, and what is passed over in each table.
-/

namespace SchemaScribe

/-- The message on a classified relationship. Its ends are named in the order in which they were declared. -/
def Diagram.classificationNote (d : Diagram) (r : Relationship) (c : ClassifiedRelationship) : Option String :=
  match d.endpoints r with
  | .error _ => none
  | .ok (source, target) =>
    let arrow := s!"{source.table.name}.{source.field.name} -> {target.table.name}.{target.field.name}"
    some s!"Relationship #{c.ordinal} {arrow} classified as {c.kind.name}"

/-- The messages on relationships, the first one at place `ordinal`, up to one that cannot be classified. -/
def Diagram.classificationNotesFrom (d : Diagram) (ordinal : Nat) : List Relationship → List String
  | [] => []
  | r :: rs =>
    match d.classify r ordinal with
    | .error _ => []
    | .ok c => (d.classificationNote r c).toList ++ d.classificationNotesFrom (ordinal + 1) rs

namespace AssociationTable

def note (a : AssociationTable) : String :=
  s!"Synthesized association table '{a.name}' for relationship #{a.ordinal}"

end AssociationTable

namespace Table

/-- The message on a field whose type is not known. -/
def fieldNote? (types : TypeContext) (f : Field) : Option String :=
  if types.isUnknown f.type.name then
    some s!"No storage type mapping for '{f.type.name}' on field '{f.name}', using sa.String"
  else none

/-- The message on an index that says nothing new. -/
def indexNote? (t : Table) (i : Index) : Option String :=
  match t.indexFate i with
  | .duplicatesPrimaryKey => some s!"Skipping index '{i.name}' on '{t.name}': duplicates the primary key"
  | .alreadyUnique => some s!"Skipping unique index '{i.name}' on '{t.name}': column is already unique"
  | _ => none

def notes (types : TypeContext) (t : Table) : List String :=
  t.fields.filterMap (fieldNote? types) ++ t.indexes.filterMap t.indexNote?
    ++ [s!"Rendering class {Naming.pascalCase t.name} for table '{t.name}'"]

end Table

namespace Blueprint

def notes (b : Blueprint) (tables : List Table) : List String :=
  let shown := tables.filter (!·.isView)
  b.associations.map AssociationTable.note ++ shown.flatMap (Table.notes b.types)
    ++ [s!"Rendered {shown.length} classes and {b.associations.length} association tables"]

end Blueprint

def Diagram.generationNotes (d : Diagram) (options : Options) : List String :=
  if d.tables.isEmpty then ["Diagram has no tables, nothing to generate"]
  else
    d.classificationNotesFrom 0 d.relationships
      ++ match d.blueprint options with
        | .error _ => []
        | .ok b => b.notes d.tables

end SchemaScribe
