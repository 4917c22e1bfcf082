import SchemaScribe.Diagram.Document
import SchemaScribe.Proofs.Names
import SchemaScribe.Proofs.TableConstraints

/-!
# Where a constraint lists a column that is not there

A constraint lists the names of fields as they are. A column is declared under the sanitized name of its
field. Since sanitizing keeps nothing but letters, digits and underscores, and keeps all of those, a listed
name is declared exactly if it consists of them: no other field can lend it its column.
-/

namespace SchemaScribe

open Source

namespace Table

variable {t : Table} {c : TableConstraint} {name : String}

theorem exists_field_of_mem_primaryKeyNames (hname : name ∈ t.primaryKeyNames) :
    ∃ f ∈ t.fields, f.name = name := by
  obtain ⟨f, hf, hfname⟩ := mem_primaryKeyNames_iff.mp hname
  exact ⟨f, (mem_primaryKeyFields_iff.mp hf).1, hfname⟩

theorem exists_field_of_mem_indexColumns {i : Index} (hname : name ∈ t.indexColumns i) :
    ∃ f ∈ t.fields, f.name = name := by
  obtain ⟨f, hf, hfname⟩ := mem_indexColumns_iff.mp hname
  exact ⟨f, mem_fields_of_mem_indexFields hf, hfname⟩

theorem exists_field_of_mem_columns (hc : c ∈ t.constraints) (hname : name ∈ c.columns) :
    ∃ f ∈ t.fields, f.name = name := by
  rcases mem_constraints_iff.mp hc with ⟨_, rfl⟩ | ⟨i, _, hi⟩
  · exact exists_field_of_mem_primaryKeyNames hname
  · obtain ⟨_, _, _, ⟨_, rfl⟩ | ⟨_, _, rfl⟩⟩ := indexConstraint?_eq_some_iff.mp hi
    · exact exists_field_of_mem_indexColumns hname
    · exact exists_field_of_mem_indexColumns hname

end Table

namespace Blueprint

variable {b : Blueprint} {t : Table} {m : ModelClass}

theorem map_attributeName_columns (h : b.modelClass t = .ok m) :
    m.columns.map (·.attributeName) = t.fields.map fun f => Naming.sanitize f.name := by
  have hcolumns := forall₂_columns h
  rw [← List.forall₂_eq_eq_eq, List.forall₂_map_left_iff, List.forall₂_map_right_iff]
  refine hcolumns.flip.imp ?_
  intro column f hcolumn
  obtain ⟨_, _, rfl⟩ := Field.column_eq_ok_iff.mp hcolumn
  rfl

/-- A field's own name is that of a column exactly if sanitizing keeps it. -/
theorem exists_attributeName_eq_iff (h : b.modelClass t = .ok m) {f : Field} (hf : f ∈ t.fields) :
    (∃ column ∈ m.columns, column.attributeName = f.name) ↔ Naming.IsPlain f.name := by
  rw [← List.mem_map, map_attributeName_columns h, List.mem_map]
  constructor
  · rintro ⟨g, _, hg⟩
    rw [← hg]
    exact Naming.isPlain_sanitize g.name
  · intro hplain
    exact ⟨f, hf, Naming.sanitize_eq_self_iff.mpr hplain⟩

end Blueprint

/-- **Columns of constraints.** What a class declares besides its schema are constraints, and each name that
one of them lists is the name of a field of the table. It is the name of a column of the class exactly if it
consists of ASCII letters, digits and underscores. -/
theorem Blueprint.constraint_columns_declared_iff {b : Blueprint} {t : Table} {m : ModelClass}
    (h : b.modelClass t = .ok m) :
    m.arguments = t.constraints.map TableConstraint.render ++
      (t.effectiveSchema b.database).toList.map ModelClass.schemaArgument ∧
    ∀ c ∈ t.constraints, ∀ name ∈ c.columns, (∃ f ∈ t.fields, f.name = name) ∧
      ((∃ column ∈ m.columns, column.attributeName = name) ↔ Naming.IsPlain name) := by
  refine ⟨arguments_of_modelClass h, ?_⟩
  intro c hc name hname
  obtain ⟨f, hf, rfl⟩ := Table.exists_field_of_mem_columns hc hname
  exact ⟨⟨f, hf, rfl⟩, exists_attributeName_eq_iff h hf⟩

/-- The key of the enrolments lists two columns of their class. -/
theorem Enrolment.key_columns_declared :
    ∃ m, blueprint.modelClass enrolments = .ok m ∧
      ⟨.primaryKey, ["student_id", "course_id"], ""⟩ ∈ enrolments.constraints ∧
      (∃ column ∈ m.columns, column.attributeName = "student_id") ∧
      ∃ column ∈ m.columns, column.attributeName = "course_id" := by
  obtain ⟨m, hm⟩ := exists_modelClass
  have hkey : ⟨.primaryKey, ["student_id", "course_id"], ""⟩ ∈ enrolments.constraints := by decide
  have hcolumns := (Blueprint.constraint_columns_declared_iff hm).2 _ hkey
  exact ⟨m, hm, hkey, (hcolumns "student_id" (by decide)).2.mpr (by decide),
    (hcolumns "course_id" (by decide)).2.mpr (by decide)⟩

namespace Registry

open Document

def firstName : Field where
  id := "f"
  name := "first name"
  type := ⟨"text", none⟩
  primaryKey := true

def lastName : Field where
  id := "l"
  name := "last name"
  type := ⟨"text", none⟩
  primaryKey := true

def people : Table := { id := "p", name := "people", fields := [firstName, lastName] }

def diagram : Diagram := { tables := [people] }

def keyField (id name : String) : Value :=
  .object [("id", .text id), ("name", .text name), ("type", .object [("name", .text "text")]),
    ("primaryKey", .bool true)]

def document : Value :=
  .object [("tables", .list [.object [("id", .text "p"), ("name", .text "people"),
    ("fields", .list [keyField "f" "first name", keyField "l" "last name"])]])]

/-- The names of the people have blanks, so the key of their class lists two columns that it does not have. -/
theorem key_columns_undeclared :
    ∃ b text m, Diagram.ofValue document = .ok diagram ∧ diagram.modelsModule {} = .ok text ∧
      diagram.blueprint {} = .ok b ∧ people ∈ diagram.tables ∧ people.isView = false ∧
      b.modelClass people = .ok m ∧
      ⟨.primaryKey, ["first name", "last name"], ""⟩ ∈ people.constraints ∧
      m.arguments = ["sa.PrimaryKeyConstraint(\"first name\", \"last name\")"] ∧
      m.columns.map (·.attributeName) = ["first_name", "last_name"] ∧
      ∀ name ∈ ["first name", "last name"], ¬ ∃ column ∈ m.columns, column.attributeName = name := by
  obtain ⟨b, hb⟩ : ∃ b, diagram.blueprint {} = .ok b := ⟨_, rfl⟩
  obtain ⟨text, htext⟩ : ∃ text, diagram.modelsModule {} = .ok text := ⟨_, rfl⟩
  obtain ⟨m, hm⟩ : ∃ m, b.modelClass people = .ok m := by
    obtain rfl := Except.ok.inj hb
    exact ⟨_, rfl⟩
  have harguments : m.arguments = ["sa.PrimaryKeyConstraint(\"first name\", \"last name\")"] := by
    obtain rfl := Except.ok.inj hb
    obtain rfl := Except.ok.inj hm
    decide
  have hattributes : m.columns.map (·.attributeName) = ["first_name", "last_name"] := by
    rw [Blueprint.map_attributeName_columns hm]
    decide
  refine ⟨b, text, m, rfl, htext, hb, by decide, rfl, hm, by decide, harguments, hattributes, ?_⟩
  intro name hname
  rw [← List.mem_map, hattributes]
  revert name
  decide

end Registry

end SchemaScribe
