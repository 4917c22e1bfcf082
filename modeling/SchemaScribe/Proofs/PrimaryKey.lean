import SchemaScribe.Proofs.TableConstraints

/-!
# One form for every primary key

A primary key of at most one field is a flag on its column, and a longer one is a constraint in front of all
others. The table and its columns decide by the same count which form it is, so no key has both forms and
none is left out. Nothing else that the class declares is about the same columns again.
-/

namespace SchemaScribe

open Source

/-- An argument of a class that declares a primary key. -/
def DeclaresPrimaryKey (argument : String) : Prop :=
  ∃ rest, argument = "sa.PrimaryKeyConstraint(" ++ rest

theorem getElem?_of_declaresPrimaryKey {argument : String} (h : DeclaresPrimaryKey argument) :
    argument.toList[0]? = some 's' ∧ argument.toList[3]? = some 'P' := by
  obtain ⟨rest, rfl⟩ := h
  rw [String.toList_append]
  exact ⟨rfl, rfl⟩

-- The fourth character tells a primary key from the other constraints, the first one from a schema.

theorem TableConstraint.not_declaresPrimaryKey_render {c : TableConstraint} (h : c.kind ≠ .primaryKey) :
    ¬ DeclaresPrimaryKey c.render := by
  intro hdeclares
  have hchar := (getElem?_of_declaresPrimaryKey hdeclares).2
  cases hkind : c.kind with
  | primaryKey => exact h hkind
  | unique =>
      rw [render, hkind] at hchar
      simp [call] at hchar
  | index =>
      rw [render, hkind] at hchar
      simp [call] at hchar

theorem ModelClass.not_declaresPrimaryKey_schemaArgument (schema : String) :
    ¬ DeclaresPrimaryKey (schemaArgument schema) := by
  intro hdeclares
  have hchar := (getElem?_of_declaresPrimaryKey hdeclares).1
  unfold schemaArgument at hchar
  simp at hchar

namespace Table

variable {t : Table}

/-- The constraint of the primary key as it is written, where the key is composite. -/
def primaryKeyArguments (t : Table) : List String :=
  if t.hasCompositePrimaryKey then
    [call "sa.PrimaryKeyConstraint" (t.primaryKeyFields.map fun f => literal f.name) []]
  else []

theorem map_render_primaryKeyConstraint? (t : Table) :
    t.primaryKeyConstraint?.toList.map TableConstraint.render = t.primaryKeyArguments := by
  unfold primaryKeyConstraint? primaryKeyArguments
  by_cases hcomposite : t.hasCompositePrimaryKey = true
  · rw [if_pos hcomposite, if_pos hcomposite, Option.toList_some, List.map_singleton, TableConstraint.render,
      primaryKeyNames, List.map_map]
    rfl
  · rw [if_neg hcomposite, if_neg hcomposite, Option.toList_none, List.map_nil]

end Table

namespace Blueprint

variable {b : Blueprint} {t : Table} {m : ModelClass}

/-- The constraint of a composite key comes first, and no other argument declares a primary key. -/
theorem exists_arguments_eq_primaryKeyArguments_append (h : b.modelClass t = .ok m) :
    ∃ rest, m.arguments = t.primaryKeyArguments ++ rest ∧
      ∀ argument ∈ rest, ¬ DeclaresPrimaryKey argument := by
  refine ⟨(t.indexes.filterMap t.indexConstraint?).map TableConstraint.render ++
    (t.effectiveSchema b.database).toList.map ModelClass.schemaArgument, ?_, ?_⟩
  · rw [arguments_of_modelClass h, Table.constraints, List.map_append, t.map_render_primaryKeyConstraint?,
      List.append_assoc]
  · intro argument hargument
    rcases List.mem_append.mp hargument with hconstraint | hschema
    · obtain ⟨c, hc, rfl⟩ := List.mem_map.mp hconstraint
      obtain ⟨i, _, hi⟩ := List.mem_filterMap.mp hc
      exact TableConstraint.not_declaresPrimaryKey_render (Table.kind_of_indexConstraint?_eq_some hi)
    · obtain ⟨schema, _, rfl⟩ := List.mem_map.mp hschema
      exact ModelClass.not_declaresPrimaryKey_schemaArgument schema

theorem getLast?_arguments_of_schema (h : b.modelClass t = .ok m) {schema : String}
    (hschema : ModelClass.schemaArgument schema ∈ m.arguments) :
    m.arguments.getLast? = some (ModelClass.schemaArgument schema) := by
  have hdeclared : t.effectiveSchema b.database = some schema :=
    (declaresSchema_of_modelClass h schema).mp hschema
  rw [arguments_of_modelClass h, hdeclared, Option.toList_some, List.map_singleton, List.getLast?_concat]

/-- The flag of a primary key stands in the text of its column, behind the type. -/
theorem exists_render_eq_of_hasFlag (h : b.modelClass t = .ok m) {c : Column} (hc : c ∈ m.columns)
    (hflag : c.HasFlag "primary_key") : ∃ front back, c.render = front ++ ", primary_key=True" ++ back := by
  obtain ⟨f, _, hcolumn⟩ := exists_field_of_mem_columns h hc
  obtain ⟨type, harguments⟩ := Field.arguments_of_column hcolumn
  obtain ⟨front, middle, back, htext⟩ :=
    Column.exists_render_eq (harguments ▸ List.mem_cons_self : type ∈ c.arguments) hflag
  have hkeyword : ", primary_key=True" = ", " ++ Keyword.render ⟨"primary_key", "True"⟩ := by decide
  refine ⟨front ++ type ++ middle, back, ?_⟩
  rw [htext, hkeyword]
  simp only [String.append_assoc]

/-- Columns are flagged as primary keys exactly if the key of their table has a single field. -/
theorem forall₂_hasFlag_primaryKey (h : b.modelClass t = .ok m) :
    List.Forall₂ (fun f c => c.HasFlag "primary_key" ↔
      f.primaryKey = true ∧ t.hasCompositePrimaryKey = false) t.fields m.columns :=
  (forall₂_columns h).imp fun _ _ => Field.hasFlag_primaryKey_iff

end Blueprint

/-- **Primary keys.** If at most one field of a table is a primary key, its class has no constraint for it,
and the columns with the flag are exactly those of such fields. If there are several, the first argument of
the class is the only one that declares a primary key, with the names in the order of the fields, and no
column has the flag. Either way no column of the key is flagged unique, no other constraint has the columns
of the key, and a schema is the last argument. The text of a column has its flags among its keywords, and the
arguments stand in one line of the class. -/
theorem Blueprint.primary_key_declared_once {b : Blueprint} {t : Table} {m : ModelClass}
    (h : b.modelClass t = .ok m) :
    (t.primaryKeyFields.length ≤ 1 →
      (∀ argument ∈ m.arguments, ¬ DeclaresPrimaryKey argument) ∧
      List.Forall₂ (fun f c => c.HasFlag "primary_key" ↔ f.primaryKey = true) t.fields m.columns) ∧
    (2 ≤ t.primaryKeyFields.length →
      (∃ rest, m.arguments =
          call "sa.PrimaryKeyConstraint" (t.primaryKeyFields.map fun f => literal f.name) [] :: rest ∧
        ∀ argument ∈ rest, ¬ DeclaresPrimaryKey argument) ∧
      ∀ c ∈ m.columns, ¬ c.HasFlag "primary_key") ∧
    List.Forall₂ (fun f c => f.primaryKey = true → ¬ c.HasFlag "unique") t.fields m.columns ∧
    m.arguments = t.constraints.map TableConstraint.render ++
      (t.effectiveSchema b.database).toList.map ModelClass.schemaArgument ∧
    (∀ c ∈ t.constraints, c.kind ≠ .primaryKey → ¬ ∀ name, name ∈ c.columns ↔ name ∈ t.primaryKeyNames) ∧
    (∀ schema, ModelClass.schemaArgument schema ∈ m.arguments →
      m.arguments.getLast? = some (ModelClass.schemaArgument schema)) ∧
    (∀ c ∈ m.columns,
      c.render = c.opening ++ ", ".intercalate (c.arguments ++ c.keywords.map Keyword.render) ++ ")" ∧
      (c.HasFlag "primary_key" → ∃ front back, c.render = front ++ ", primary_key=True" ++ back)) ∧
    m.argumentLines =
      if m.arguments = [] then [] else ["    __table_args__ = (" ++ ", ".intercalate m.arguments ++ ",)"] := by
  obtain ⟨rest, harguments, hrest⟩ := exists_arguments_eq_primaryKeyArguments_append h
  have hflags := forall₂_hasFlag_primaryKey h
  refine ⟨?_, ?_, ?_, arguments_of_modelClass h, fun _ => Table.not_columns_of_mem_constraints,
    fun _ => getLast?_arguments_of_schema h, fun c hc => ⟨c.render_eq, exists_render_eq_of_hasFlag h hc⟩,
    m.argumentLines_eq⟩
  · intro hshort
    have hcomposite : t.hasCompositePrimaryKey = false := by
      rw [← Bool.not_eq_true, Table.hasCompositePrimaryKey_iff]
      exact Nat.not_lt.mpr hshort
    rw [Table.primaryKeyArguments, hcomposite] at harguments
    refine ⟨by rwa [harguments], hflags.imp ?_⟩
    intro f c hflag
    rw [hflag, hcomposite]
    exact and_iff_left rfl
  · intro hlong
    have hcomposite : t.hasCompositePrimaryKey = true := Table.hasCompositePrimaryKey_iff.mpr hlong
    rw [Table.primaryKeyArguments, if_pos hcomposite] at harguments
    refine ⟨⟨rest, harguments, hrest⟩, ?_⟩
    intro c hc hflag
    obtain ⟨f, _, hiff⟩ := exists_of_forall₂ hflags.flip hc
    exact absurd (hiff.mp hflag).2 (by simp [hcomposite])
  · refine (forall₂_columns h).imp ?_
    intro f c hcolumn hkey hflag
    exact absurd ((Field.hasFlag_unique_iff hcolumn).mp hflag).2 (by simp [hkey])

/-- The enrolments have a key of two members and two constraints besides it. -/
theorem Enrolment.composite_key_declared :
    ∃ m rest, blueprint.modelClass enrolments = .ok m ∧ 2 ≤ enrolments.primaryKeyFields.length ∧
      m.arguments = "sa.PrimaryKeyConstraint(\"student_id\", \"course_id\")" :: rest ∧
      (∀ argument ∈ rest, ¬ DeclaresPrimaryKey argument) ∧
      (∀ c ∈ m.columns, ¬ c.HasFlag "primary_key") ∧
      m.arguments.getLast? = some (ModelClass.schemaArgument "public") := by
  obtain ⟨m, hm⟩ := exists_modelClass
  obtain ⟨_, hcomposite, _, _, _, hschema, _⟩ := Blueprint.primary_key_declared_once hm
  obtain ⟨⟨rest, harguments, hrest⟩, hcolumns⟩ := hcomposite (by decide)
  refine ⟨m, rest, hm, by decide, harguments, hrest, hcolumns, hschema "public" ?_⟩
  obtain rfl := Except.ok.inj hm
  decide

end SchemaScribe
