import SchemaScribe.ModelsModule
import SchemaScribe.Proofs.Lists

/-!
# What a class is made from

A table has a class unless the size of one of its columns cannot be read, and then every part of the class
is known from the table and the blueprint. Every table that is no view has its class among those of the
module. Columns and arguments stand in the text of the class as they are.
-/

namespace SchemaScribe

open Source

/-! ### Columns -/

/-- A field has a column unless the expression of its type cannot be written. -/
theorem Field.column_eq_ok_iff {f : Field} {types : TypeContext} {compositeKey : Bool}
    {foreignKey : Option Endpoint} {c : Column} :
    f.column types compositeKey foreignKey = .ok c ↔
      ∃ type, (types.columnType f.type.name).expression f = .ok type ∧
        c = ⟨Naming.sanitize f.name, types.attributeType f.type.name,
          type :: foreignKey.toList.map foreignKeyArgument, f.keywords compositeKey foreignKey,
          Source.commentLines f.comments Source.indent, (types.columnType f.type.name).symbol?⟩ := by
  unfold column
  cases htype : (types.columnType f.type.name).expression f with
  | error e => simp [htype, Except.map]
  | ok type =>
      simp only [htype, Except.map, Except.ok.injEq]
      constructor
      · intro hc
        exact ⟨type, rfl, hc.symm⟩
      · rintro ⟨_, rfl, hc⟩
        exact hc.symm

theorem Field.arguments_of_column {f : Field} {types : TypeContext} {compositeKey : Bool}
    {foreignKey : Option Endpoint} {c : Column} (h : f.column types compositeKey foreignKey = .ok c) :
    ∃ type, c.arguments = type :: foreignKey.toList.map foreignKeyArgument := by
  obtain ⟨type, _, rfl⟩ := column_eq_ok_iff.mp h
  exact ⟨type, rfl⟩

theorem Field.name_of_mem_defaultKeywords (f : Field) :
    ∀ k ∈ f.defaultKeywords, k.name = "server_default" ∨ k.name = "onupdate" := by
  unfold defaultKeywords
  cases nonEmpty f.default with
  | none => cases f.isCreationTime <;> cases f.isUpdateTime <;> simp
  | some default => cases f.increment <;> simp

namespace Column

/-- The text of a column in front of its arguments: the lines of its comments, its name and its type. -/
def opening (c : Column) : String :=
  String.join (c.comments.map fun line => line ++ "\n") ++ indent ++ c.attributeName ++ ": Mapped[" ++
    c.type.render ++ "] = mapped_column("

theorem render_eq (c : Column) :
    c.render = c.opening ++ ", ".intercalate (c.arguments ++ c.keywords.map Keyword.render) ++ ")" := by
  have hopen : "] = mapped_column(" = "] = " ++ ("mapped_column" ++ "(") := by decide
  have hdeclaration : mappedAttribute c.attributeName c.type.render
      (call "mapped_column" c.arguments c.keywords) =
        indent ++ c.attributeName ++ ": Mapped[" ++ c.type.render ++ "] = " ++
          call "mapped_column" c.arguments c.keywords := rfl
  rw [render, hdeclaration, intercalate_append_cons, List.map_nil, String.join_nil, String.append_empty, call,
    opening, hopen]
  simp only [String.append_assoc]

/-- An argument and a keyword of a column stand in its text, in this order. -/
theorem exists_render_eq {c : Column} {argument : String} {keyword : Keyword}
    (hargument : argument ∈ c.arguments) (hkeyword : keyword ∈ c.keywords) :
    ∃ front middle back, c.render = front ++ argument ++ middle ++ ", " ++ keyword.render ++ back := by
  obtain ⟨earlier, between, harguments⟩ := List.append_of_mem hargument
  obtain ⟨before, later, hkeywords⟩ := List.append_of_mem hkeyword
  refine ⟨c.opening ++ String.join (earlier.map fun s => s ++ ", "),
    String.join (between.map fun s => ", " ++ s) ++
      String.join ((before.map Keyword.render).map fun s => ", " ++ s),
    String.join ((later.map Keyword.render).map fun s => ", " ++ s) ++ ")", ?_⟩
  rw [render_eq, harguments, hkeywords, List.append_assoc, List.cons_append, intercalate_append_cons]
  simp only [List.map_append, List.map_cons, String.join_append, String.join_cons, String.append_assoc]

end Column

/-! ### Classes -/

theorem ModelClass.argumentLines_eq (m : ModelClass) :
    m.argumentLines =
      if m.arguments = [] then [] else ["    __table_args__ = (" ++ ", ".intercalate m.arguments ++ ",)"] := by
  unfold argumentLines
  simp only [List.isEmpty_iff]

namespace Blueprint

variable {b : Blueprint} {t : Table} {m : ModelClass}

theorem modelClass_eq_ok_iff :
    b.modelClass t = .ok m ↔
      ∃ columns, b.columns t = .ok columns ∧
        m = ⟨Naming.pascalCase t.name, t.name, t.arguments (t.effectiveSchema b.database),
          Source.docstring t.comments, columns, b.relationshipLines t⟩ := by
  unfold modelClass
  cases hcolumns : b.columns t with
  | error e => simp [Except.map]
  | ok columns =>
      simp only [Except.map, Except.ok.injEq]
      constructor
      · intro hm
        exact ⟨columns, rfl, hm.symm⟩
      · rintro ⟨_, rfl, hm⟩
        exact hm.symm

theorem name_of_modelClass (h : b.modelClass t = .ok m) : m.name = Naming.pascalCase t.name := by
  obtain ⟨_, _, rfl⟩ := modelClass_eq_ok_iff.mp h
  rfl

theorem relationships_of_modelClass (h : b.modelClass t = .ok m) : m.relationships = b.relationshipLines t := by
  obtain ⟨_, _, rfl⟩ := modelClass_eq_ok_iff.mp h
  rfl

theorem forall₂_columns (h : b.modelClass t = .ok m) :
    List.Forall₂ (fun f c => f.column b.types t.hasCompositePrimaryKey (b.foreignKeys.target? t f) = .ok c)
      t.fields m.columns := by
  obtain ⟨columns, hcolumns, rfl⟩ := modelClass_eq_ok_iff.mp h
  exact mapM_eq_ok_iff.mp hcolumns

theorem exists_field_of_mem_columns (h : b.modelClass t = .ok m) {c : Column} (hc : c ∈ m.columns) :
    ∃ f ∈ t.fields, f.column b.types t.hasCompositePrimaryKey (b.foreignKeys.target? t f) = .ok c :=
  exists_of_forall₂ (forall₂_columns h).flip hc

theorem exists_table_of_mem_modelClasses {tables : List Table} {classes : List ModelClass}
    (hclasses : b.modelClasses tables = .ok classes) (hm : m ∈ classes) :
    ∃ t ∈ tables, t.isView = false ∧ b.modelClass t = .ok m := by
  obtain ⟨t, ht, hclass⟩ := exists_of_forall₂ (mapM_eq_ok_iff.mp hclasses).flip hm
  obtain ⟨ht, hview⟩ := List.mem_filter.mp ht
  exact ⟨t, ht, by simpa using hview, hclass⟩

theorem exists_modelClass {tables : List Table} {classes : List ModelClass}
    (hclasses : b.modelClasses tables = .ok classes) (ht : t ∈ tables) (hview : t.isView = false) :
    ∃ m ∈ classes, b.modelClass t = .ok m := by
  apply exists_of_mapM_eq_ok hclasses
  rw [List.mem_filter, hview]
  exact ⟨ht, rfl⟩

end Blueprint

end SchemaScribe
