import SchemaScribe.Proofs.ForeignKeys
import SchemaScribe.Proofs.ModuleText

/-!
# Where a reference and the class it refers to name different schemas

A class declares the schema that its table names, else the default schema of the database. A reference to the
same table names only the former. So the two agree exactly if the table names a schema or the database has no
default one.
-/

namespace SchemaScribe

open Source

/-- The argument by which a class declares a schema. -/
def ModelClass.schemaArgument (schema : String) : String :=
  "\x7b\"schema\": " ++ literal schema ++ "\x7d"

/-- The class declares this schema and no other, or none at all. -/
def ModelClass.DeclaresSchema (m : ModelClass) (schema : Option String) : Prop :=
  ∀ s, schemaArgument s ∈ m.arguments ↔ schema = some s

/-- The field with its table and a schema, where there is one. -/
def Endpoint.qualified (e : Endpoint) (schema : Option String) : String :=
  ".".intercalate (schema.toList ++ [e.table.name, e.field.name])

theorem Source.literal_inj {s s' : String} : literal s = literal s' ↔ s = s' := by
  have hliteral : ∀ s, literal s = "\"" ++ s ++ "\"" := fun _ => rfl
  rw [hliteral, hliteral, String.append_left_inj, String.append_right_inj]

theorem ModelClass.schemaArgument_inj {s s' : String} : schemaArgument s = schemaArgument s' ↔ s = s' := by
  unfold schemaArgument
  rw [String.append_left_inj, String.append_right_inj, literal_inj]

theorem TableConstraint.exists_render_eq (c : TableConstraint) : ∃ rest, c.render = "sa." ++ rest := by
  have hprefix : ∀ name rest : String,
      "sa." ++ name ++ "(" ++ rest ++ ")" = "sa." ++ (name ++ "(" ++ rest ++ ")") := by
    intro name rest
    simp only [String.append_assoc]
  unfold render call
  cases c.kind with
  | primaryKey => exact ⟨_, hprefix "PrimaryKeyConstraint" _⟩
  | unique => exact ⟨_, hprefix "UniqueConstraint" _⟩
  | index => exact ⟨_, hprefix "Index" _⟩

/-- No constraint can be taken for the schema: its first character is a letter. -/
theorem TableConstraint.render_ne_schemaArgument (c : TableConstraint) (schema : String) :
    c.render ≠ ModelClass.schemaArgument schema := by
  obtain ⟨rest, hrest⟩ := c.exists_render_eq
  intro h
  rw [hrest, ModelClass.schemaArgument] at h
  have hhead := congrArg (fun s => s.toList.head?) h
  simp at hhead

namespace Table

variable {t : Table} {db : DatabaseType}

theorem nonEmpty_effectiveSchema (t : Table) (db : DatabaseType) :
    nonEmpty (t.effectiveSchema db) = t.effectiveSchema db := by
  unfold effectiveSchema ownSchema
  cases h : nonEmpty t.schema with
  | none => cases db <;> decide
  | some s =>
      have hs : s ≠ "" := by
        simpa using (Option.filter_eq_some_iff.mp h).2
      simp [nonEmpty, hs]

theorem schemaArgument_mem_arguments_iff {s : String} :
    ModelClass.schemaArgument s ∈ t.arguments (t.effectiveSchema db) ↔ t.effectiveSchema db = some s := by
  have harguments : t.arguments (t.effectiveSchema db) = t.constraints.map TableConstraint.render ++
      (nonEmpty (t.effectiveSchema db)).toList.map ModelClass.schemaArgument := rfl
  rw [harguments, nonEmpty_effectiveSchema, List.mem_append]
  constructor
  · rintro (hconstraint | hschema)
    · obtain ⟨c, _, hc⟩ := List.mem_map.mp hconstraint
      exact absurd hc (c.render_ne_schemaArgument s)
    · obtain ⟨s', hs', heq⟩ := List.mem_map.mp hschema
      obtain rfl := ModelClass.schemaArgument_inj.mp heq
      exact Option.mem_toList.mp hs'
  · intro h
    rw [h]
    exact Or.inr List.mem_cons_self

end Table

theorem Blueprint.declaresSchema_of_modelClass {b : Blueprint} {t : Table} {m : ModelClass}
    (h : b.modelClass t = .ok m) : m.DeclaresSchema (t.effectiveSchema b.database) := by
  obtain ⟨_, _, rfl⟩ := modelClass_eq_ok_iff.mp h
  intro s
  exact Table.schemaArgument_mem_arguments_iff

namespace Endpoint

theorem qualified_some (e : Endpoint) (schema : String) :
    e.qualified (some schema) = schema ++ "." ++ e.qualified none := by
  unfold qualified
  simp [String.append_assoc]

theorem reference_eq_qualified (e : Endpoint) : e.reference = e.qualified e.table.ownSchema := rfl

theorem reference_eq_qualified_effectiveSchema_iff {e : Endpoint} {db : DatabaseType} :
    e.reference = e.qualified (e.table.effectiveSchema db) ↔
      e.table.ownSchema ≠ none ∨ db.defaultSchema = none := by
  rw [reference_eq_qualified]
  unfold Table.effectiveSchema
  cases hown : e.table.ownSchema with
  | some schema => simp
  | none =>
      cases hdefault : db.defaultSchema with
      | none => simp
      | some schema =>
          have hne : e.qualified none ≠ e.qualified (some schema) := by
            intro h
            have hlength := congrArg String.length h
            rw [qualified_some, String.length_append, String.length_append] at hlength
            have hdot : ".".length = 1 := by decide
            omega
          simpa using hne

end Endpoint

/-- **Schemas of references.** The classes and association tables of a module refer to ends of
relationships. If the table of such an end is no view, it has a class, and the reference has the schema
which that class declares exactly if the table names a schema or the database has no default one. -/
theorem Diagram.reference_schema_agrees_iff {d : Diagram} {options : Options} {b : Blueprint}
    (hb : d.blueprint options = .ok b) {classes : List ModelClass}
    (hclasses : b.modelClasses d.tables = .ok classes) :
    classes.flatMap ModelClass.foreignKeyArguments =
      ((d.tables.filter (!·.isView)).flatMap b.columnReferences).map Field.foreignKeyArgument ∧
    (∀ a ∈ b.associations, ∃ front middle back,
      a.render = front ++ Field.foreignKeyArgument a.left.target ++ middle ++
        Field.foreignKeyArgument a.right.target ++ back) ∧
    ∀ e ∈ b.references d.tables, e.table.isView = false →
      ∃ m ∈ classes, b.modelClass e.table = .ok m ∧
        m.DeclaresSchema (e.table.effectiveSchema d.databaseType) ∧
        (e.reference = e.qualified (e.table.effectiveSchema d.databaseType) ↔
          e.table.ownSchema ≠ none ∨ d.databaseType.defaultSchema = none) := by
  refine ⟨Blueprint.foreignKeyArguments_of_modelClasses hclasses, ?_, ?_⟩
  · intro a _
    exact a.exists_render_eq_foreignKeys
  · intro e he hview
    have htable : e.table ∈ d.tables :=
      mem_of_table?_eq_some (Blueprint.foundIn_of_mem_references hb he).table
    obtain ⟨m, hm, hclass⟩ := Blueprint.exists_modelClass hclasses htable hview
    have hdatabase : b.database = d.databaseType := by
      obtain ⟨_, _, rfl⟩ := blueprint_eq_ok_iff.mp hb
      rfl
    have hdeclares := Blueprint.declaresSchema_of_modelClass hclass
    rw [hdatabase] at hdeclares
    exact ⟨m, hm, hclass, hdeclares, Endpoint.reference_eq_qualified_effectiveSchema_iff⟩

namespace Blog

/-- Posts name a schema, and references to them have it. Tags name none, so references to them do not have
the default schema that their class declares. -/
theorem reference_schemas :
    ∃ classes, blueprint.modelClasses diagram.tables = .ok classes ∧
      (∃ m ∈ classes, m.DeclaresSchema (some "blog") ∧
        Endpoint.reference ⟨posts, postId⟩ = Endpoint.qualified ⟨posts, postId⟩ (some "blog")) ∧
      ∃ m ∈ classes, m.DeclaresSchema (some "public") ∧
        Endpoint.reference ⟨tags, tagId⟩ ≠ Endpoint.qualified ⟨tags, tagId⟩ (some "public") := by
  obtain ⟨classes, hclasses⟩ : ∃ classes, blueprint.modelClasses diagram.tables = .ok classes :=
    ⟨_, rfl⟩
  have hends := (Diagram.reference_schema_agrees_iff blueprint_eq hclasses).2.2
  have hposts : (⟨posts, postId⟩ : Endpoint) ∈ blueprint.references diagram.tables := by
    decide +kernel
  have htags : (⟨tags, tagId⟩ : Endpoint) ∈ blueprint.references diagram.tables := by
    decide +kernel
  obtain ⟨m, hm, _, hdeclares, hagrees⟩ := hends _ hposts rfl
  obtain ⟨m', hm', _, hdeclares', hagrees'⟩ := hends _ htags rfl
  refine ⟨classes, hclasses, ⟨m, hm, hdeclares, hagrees.mpr (by decide)⟩, m', hm', hdeclares', ?_⟩
  intro h
  exact absurd (hagrees'.mp h) (by decide)

end Blog

namespace Library

def authorId : Field := { id := "a1", name := "id", type := ⟨"bigint", none⟩, primaryKey := true }

def bookId : Field := { id := "b1", name := "id", type := ⟨"bigint", none⟩, primaryKey := true }

def bookAuthor : Field := { id := "b2", name := "author_id", type := ⟨"bigint", none⟩ }

/-- Authors and their books, without a schema, in a database that has a default one. -/
def diagram : Diagram where
  databaseType := .postgresql
  tables := [{ id := "a", name := "authors", fields := [authorId] },
    { id := "b", name := "books", fields := [bookId, bookAuthor] }]
  relationships := [⟨"a", "a1", "b", "b2", .one, .many, none, none, none⟩]

/-- The class of the authors is in the schema `public`, and the books refer to authors without a schema. -/
theorem reference_without_default_schema :
    ∃ text b authors books e, diagram.modelsModule {} = .ok text ∧ diagram.blueprint {} = .ok b ∧
      b.modelClasses diagram.tables = .ok [authors, books] ∧ b.references diagram.tables = [e] ∧
      e.table.isView = false ∧ b.modelClass e.table = .ok authors ∧
      authors.arguments = [ModelClass.schemaArgument "public"] ∧
      books.foreignKeyArguments = [Field.foreignKeyArgument e] ∧ e.reference = "authors.id" :=
  ⟨_, _, _, _, _, rfl, rfl, rfl, rfl, rfl, rfl, rfl, rfl, by decide⟩

end Library

end SchemaScribe
