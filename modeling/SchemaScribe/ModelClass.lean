import SchemaScribe.Column
import SchemaScribe.Constraint
import SchemaScribe.Relationship.Attribute

/-!
Model classes and the blocks of association tables, as source text.
-/

namespace SchemaScribe

open Source

structure ModelClass where
  name : String
  tableName : String
  arguments : List String
  doc : Option String
  columns : List Column
  relationships : List String
  deriving Repr, DecidableEq

namespace ModelClass

/-- The dialect types that the columns use, each once. -/
def symbols (m : ModelClass) : List DialectSymbol :=
  (m.columns.filterMap (·.symbol)).eraseDups

def argumentLines (m : ModelClass) : List String :=
  if m.arguments.isEmpty then []
  else ["    __table_args__ = (" ++ ", ".intercalate m.arguments ++ ",)"]

def docLines (m : ModelClass) : List String :=
  match m.doc with
  | none => []
  | some doc => ["", "    __doc__ = \"\"\"" ++ doc ++ "\"\"\""]

def render (m : ModelClass) : String :=
  "\n".intercalate
    (["class " ++ m.name ++ "(Base):", "    __tablename__ = " ++ literal m.tableName]
      ++ m.argumentLines ++ m.docLines ++ m.columns.map Column.render ++ m.relationships)

end ModelClass

namespace Blueprint

/-- The columns of a table. The first field whose size cannot be read refuses the table. -/
def columns (b : Blueprint) (t : Table) : Except OversizedNumber (List Column) :=
  t.fields.mapM fun f => f.column b.types t.hasCompositePrimaryKey (b.foreignKeys.target? t f)

def modelClass (b : Blueprint) (t : Table) : Except OversizedNumber ModelClass :=
  (b.columns t).map fun columns => {
    name := Naming.pascalCase t.name
    tableName := t.name
    arguments := t.arguments (t.effectiveSchema b.database)
    doc := docstring t.comments
    columns := columns
    relationships := b.relationshipLines t }

end Blueprint

namespace AssociationColumn

def render (c : AssociationColumn) : String :=
  "    " ++ call "sa.Column"
    [literal c.name, call "sa.ForeignKey" [literal c.target.reference] []] [⟨"primary_key", "True"⟩] ++ ","

end AssociationColumn

namespace AssociationTable

def render (a : AssociationTable) : String :=
  "\n".intercalate
    ([a.name ++ " = Table(" ++ literal a.name ++ ", Base.metadata,", a.left.render, a.right.render]
      ++ (nonEmpty a.schema).toList.map (fun schema => "    schema=" ++ literal schema ++ ",")
      ++ [")"])

end AssociationTable

end SchemaScribe
