import SchemaScribe.Diagram.Document
import SchemaScribe.Proofs.DeclaredSchema
import SchemaScribe.Proofs.StringLiteral
import SchemaScribe.Proofs.TableConstraints

/-!
# Names between quotes

A module has names of its diagram between double quotes: those of tables, schemas, constraints, columns and
enumerations, and the references of foreign keys. They stand there as they are, without escapes. So each is
read as one literal that ends at its own closing quote, and has the name for its value, exactly if the name is
verbatim.
-/

namespace SchemaScribe

open Source StringLiteral

/-! ### Literals in a text -/

namespace Source

/-- The text is not empty and does not start with a quote. -/
def Continues (s : String) : Prop :=
  ∃ c rest, s.toList = c :: rest ∧ c ≠ '"'

/-- The text has a name between quotes behind `lead`, and no quote follows. -/
def Quotes (text lead name : String) : Prop :=
  ∃ front back, text = front ++ lead ++ literal name ++ back ∧ Continues back

variable {s text lead name separator close : String}

theorem Continues.append (h : Continues s) (back : String) : Continues (s ++ back) := by
  obtain ⟨c, rest, hs, hc⟩ := h
  exact ⟨c, rest ++ back.toList, by rw [String.toList_append, hs, List.cons_append], hc⟩

theorem Quotes.append (h : Quotes s lead name) (front back : String) :
    Quotes (front ++ s ++ back) lead name := by
  obtain ⟨front', back', rfl, hback⟩ := h
  refine ⟨front ++ front', back' ++ back, ?_, hback.append back⟩
  simp only [String.append_assoc]

end Source

/-! ### Constraints -/

namespace TableConstraint

/-- What precedes the columns of a constraint. -/
def opening (c : TableConstraint) : String :=
  match c.kind with
  | .primaryKey => "sa.PrimaryKeyConstraint("
  | .unique => "sa.UniqueConstraint("
  | .index => "sa.Index(" ++ literal c.name ++ ", "

/-- Names between quotes, each with a comma. -/
def listed (names : List String) : String :=
  String.join (names.map fun s => literal s ++ ", ")

/-- A constraint has a name between quotes behind `lead`: one of its columns, or its own. -/
inductive Names (c : TableConstraint) : String → String → Prop where
  | column {earlier : List String} {name : String} {later : List String}
      (h : c.columns = earlier ++ name :: later) : c.Names (c.opening ++ listed earlier) name
  | unique (h : c.kind = .unique) : c.Names ("sa.UniqueConstraint(" ++ listed c.columns ++ "name=") c.name
  | index (h : c.kind = .index) : c.Names "sa.Index(" c.name

variable {c : TableConstraint} {lead name : String}

end TableConstraint

/-! ### Column types -/

namespace Enumeration

def valueList (e : Enumeration) : String :=
  ", ".intercalate (e.values.map Text.doubleQuoted)

/-- What follows the name of an enumeration. -/
def schemaPart (e : Enumeration) : String :=
  match e.schema with
  | some schema => ", schema=" ++ literal schema
  | none => ""

/-- An enumeration has its name between quotes behind `lead`, or its schema. -/
inductive Names (declared : String) (e : Enumeration) : String → String → Prop where
  | name : Names declared e ("sa.Enum(" ++ e.valueList ++ ", name=") declared
  | schema {schema : String} (h : e.schema = some schema) :
      Names declared e ("sa.Enum(" ++ e.valueList ++ ", name=" ++ literal declared ++ ", schema=") schema

variable {declared lead name : String} {e : Enumeration}

theorem expression_eq (declared : String) (e : Enumeration) :
    e.expression declared =
      "sa.Enum(" ++ e.valueList ++ ", name=" ++ literal declared ++ e.schemaPart ++ ")" := by
  have hname : ", name=\"" = ", name=" ++ "\"" := by decide
  have hliteral : ∀ s, literal s = "\"" ++ s ++ "\"" := fun _ => rfl
  have hpart : e.schemaPart = match e.schema with
      | some schema => ", schema=\"" ++ schema ++ "\""
      | none => "" := by
    have hschema : ", schema=\"" = ", schema=" ++ "\"" := by decide
    unfold schemaPart
    cases e.schema with
    | none => rfl
    | some schema => simp only [hschema, hliteral, String.append_assoc]
  have hexpression : e.expression declared =
      "sa.Enum(" ++ e.valueList ++ ", name=\"" ++ declared ++ "\"" ++ (match e.schema with
        | some schema => ", schema=\"" ++ schema ++ "\""
        | none => "") ++ ")" := rfl
  rw [hexpression, ← hpart, hname, hliteral]
  simp only [String.append_assoc]

theorem continues_schemaPart (e : Enumeration) : Continues (e.schemaPart ++ ")") := by
  unfold schemaPart
  cases e.schema with
  | none => exact ⟨')', [], rfl, by decide⟩
  | some schema =>
      have hcomma : Continues ", schema=" := ⟨',', _, rfl, by decide⟩
      exact (hcomma.append _).append _

end Enumeration

/-- The enumeration in a column type, with its declared name. -/
def ColumnType.enumeration? : ColumnType → Option (String × Enumeration)
  | single (.enumeration declared e) => some (declared, e)
  | array (.enumeration declared e) => some (declared, e)
  | _ => none

section Render

variable {lead name : String}

namespace ModelClass

variable {m : ModelClass}

end ModelClass

namespace AssociationTable

variable {a : AssociationTable}

end AssociationTable

end Render

/-! ### Modules -/

namespace ModelsModule

variable {associations : List AssociationTable} {classes : List ModelClass} {lead name : String}

end ModelsModule

/-! ### Every name -/

namespace Blueprint

/-- The class of a table has a name between quotes behind `lead`: the name of the table or its schema, a name
of one of its constraints or of an enumeration in one of its columns, or what a column refers to. -/
inductive NamesInClass (b : Blueprint) (t : Table) : String → String → Prop where
  | table : b.NamesInClass t ("class " ++ Naming.pascalCase t.name ++ "(Base):\n    __tablename__ = ") t.name
  | schema {schema : String} (h : t.effectiveSchema b.database = some schema) :
      b.NamesInClass t "\x7b\"schema\": " schema
  | constraint {c : TableConstraint} {lead name : String} (hc : c ∈ t.constraints) (h : c.Names lead name) :
      b.NamesInClass t lead name
  | enumeration {f : Field} {declared : String} {e : Enumeration} {lead name : String} (hf : f ∈ t.fields)
      (he : (b.types.columnType f.type.name).enumeration? = some (declared, e))
      (h : e.Names declared lead name) : b.NamesInClass t lead name
  | reference {f : Field} {e : Endpoint} (hf : f ∈ t.fields) (he : b.foreignKeys.target? t f = some e) :
      b.NamesInClass t "sa.ForeignKey(" e.reference

/-- A module has a name between quotes behind `lead`: in the class of a table that is no view, or in an
association table, which has references and a schema. -/
inductive Names (b : Blueprint) (tables : List Table) : String → String → Prop where
  | inClass {t : Table} {lead name : String} (ht : t ∈ tables) (hview : t.isView = false)
      (h : b.NamesInClass t lead name) : b.Names tables lead name
  | joined {a : AssociationTable} {c : AssociationColumn} (ha : a ∈ b.associations)
      (hc : c = a.left ∨ c = a.right) :
      b.Names tables ("    sa.Column(" ++ literal c.name ++ ", sa.ForeignKey(") c.target.reference
  | joinedSchema {a : AssociationTable} {schema : String} (ha : a ∈ b.associations)
      (h : nonEmpty a.schema = some schema) : b.Names tables "    schema=" schema

variable {d : Diagram} {options : Options} {b : Blueprint} {lead name : String}

end Blueprint

theorem Source.toList_literal_append (name back : String) :
    (literal name ++ back).toList = '"' :: name.toList ++ '"' :: back.toList := by
  have hquote : "\"".toList = ['"'] := by decide
  have hliteral : literal name ++ back = "\"" ++ name ++ "\"" ++ back := rfl
  rw [hliteral]
  simp [hquote]

namespace Studio

open Document

def tracks (schema : String) : Table := { id := "t", name := "tracks", schema := some schema }

/-- One table, in a schema of any name. -/
def diagram (schema : String) : Diagram := { tables := [tracks schema] }

def document (schema : String) : Value :=
  .object [("tables", .list [.object [("id", .text "t"), ("name", .text "tracks"), ("schema", .text schema)]])]

def blueprint (schema : String) : Blueprint := .ofRelationships (diagram schema) {} []

theorem blueprint_eq (schema : String) : (diagram schema).blueprint {} = .ok (blueprint schema) := rfl

end Studio

end SchemaScribe
