import SchemaScribe.Proofs.TableConstraints

/-!
# Where a unique index is lost

An index is dropped for one of two reasons: it is over the columns of the primary key, or over a single
field that is flagged unique. In either case something else has to declare what the index asked for. It does
not if the flagged field is a member of a composite key, since the column of a member is not flagged. Nor
does it if names repeat, and an index over other fields is taken for one over the key. In all other cases no
unique index is lost.
-/

namespace SchemaScribe

open Source

namespace Table

/-- What a class can declare so that no two rows agree on these fields and no others. -/
inductive EnforcesUnique (t : Table) (m : ModelClass) (fields : List Field) : Prop where
  /-- A unique constraint over their columns. -/
  | constraint (c : TableConstraint) (hc : c ∈ t.constraints) (harguments : c.render ∈ m.arguments)
      (hkind : c.kind = .unique) (hcolumns : ∀ name, name ∈ c.columns ↔ ∃ f ∈ fields, f.name = name)
  /-- The primary key, which consists of them. -/
  | primaryKey (hfields : ∀ f, f ∈ fields ↔ f ∈ t.primaryKeyFields)
  /-- The flag of the column of the only one. -/
  | column (f : Field) (c : Column) (hfields : ∀ g, g ∈ fields ↔ g = f)
      (hc : (f, c) ∈ t.fields.zip m.columns) (hflag : c.HasFlag "unique")
  /-- The flag by which the column of the only one is the primary key. -/
  | keyColumn (f : Field) (c : Column) (hfields : ∀ g, g ∈ fields ↔ g = f)
      (hc : (f, c) ∈ t.fields.zip m.columns) (hflag : c.HasFlag "primary_key")
      (honly : ∀ c' ∈ m.columns, c'.HasFlag "primary_key" → c' = c)

/-- How nothing comes to stand in for a unique index that is dropped. -/
inductive LosesUnique (t : Table) (i : Index) : Prop where
  /-- Its only field is flagged unique and a member of a composite key, and no constraint says the same. -/
  | keyMember (f g : Field) (hfields : t.indexFields i = [f]) (hunique : f.unique = true)
      (hf : f ∈ t.primaryKeyFields) (hg : g ∈ t.primaryKeyFields) (hname : g.name ≠ f.name)
      (hother : ∀ c ∈ t.constraints, c.kind = .unique → ¬ ∀ name, name ∈ c.columns ↔ f.name = name)
  /-- Its fields have the names of the primary key, but they are others, and no single field that is
  flagged. -/
  | namesakes (hcovers : t.CoversPrimaryKey i)
      (hfields : ¬ ∀ f, f ∈ t.indexFields i ↔ f ∈ t.primaryKeyFields)
      (hsingle : ¬ ∃ f, (∀ g, g ∈ t.indexFields i ↔ g = f) ∧ f.unique = true ∧ f.primaryKey = false)

variable {t : Table} {i : Index}

theorem exists_primaryKeyField_of_not_coversPrimaryKey {f : Field} (hfields : t.indexFields i = [f])
    (hf : f ∈ t.primaryKeyFields) (hcovers : ¬ t.CoversPrimaryKey i) :
    ∃ g ∈ t.primaryKeyFields, g.name ≠ f.name := by
  by_contra hnone
  push Not at hnone
  apply hcovers
  intro name
  rw [mem_indexColumns_iff, mem_primaryKeyNames_iff, hfields]
  constructor
  · rintro ⟨g, hg, rfl⟩
    obtain rfl := List.mem_singleton.mp hg
    exact ⟨g, hf, rfl⟩
  · rintro ⟨g, hg, rfl⟩
    exact ⟨f, List.mem_singleton_self f, (hnone g hg).symm⟩

end Table

namespace Blueprint

variable {b : Blueprint} {t : Table} {m : ModelClass} {i : Index} {f : Field} {c : Column}

theorem column_of_mem_zip (h : b.modelClass t = .ok m) (hc : (f, c) ∈ t.fields.zip m.columns) :
    f.column b.types t.hasCompositePrimaryKey (b.foreignKeys.target? t f) = .ok c :=
  List.forall₂_zip (forall₂_columns h) hc

theorem enforcesUnique_of_unique (h : b.modelClass t = .ok m)
    (hfields : ∀ g, g ∈ t.indexFields i ↔ g = f) (hunique : f.unique = true)
    (hkey : f.primaryKey = false) : t.EnforcesUnique m (t.indexFields i) := by
  have hf : f ∈ t.fields := Table.mem_fields_of_mem_indexFields ((hfields f).mpr rfl)
  obtain ⟨c, hc, hcolumn⟩ := exists_mem_zip_of_forall₂ (forall₂_columns h) hf
  exact .column f c hfields hc ((Field.hasFlag_unique_iff hcolumn).mpr ⟨hunique, hkey⟩)

theorem enforcesUnique_of_declared (h : b.modelClass t = .ok m) (hi : i ∈ t.indexes)
    (hdeclared : t.indexConstraint? i = some ⟨.unique, t.indexColumns i, i.name⟩) :
    t.EnforcesUnique m (t.indexFields i) := by
  have hc : ⟨.unique, t.indexColumns i, i.name⟩ ∈ t.constraints :=
    Table.mem_constraints_iff.mpr (Or.inr ⟨i, hi, hdeclared⟩)
  refine .constraint _ hc ?_ rfl fun _ => Table.mem_indexColumns_iff
  rw [arguments_of_modelClass h]
  exact List.mem_append_left _ (List.mem_map_of_mem hc)

theorem primaryKeyFields_of_hasFlag (h : b.modelClass t = .ok m) (hc : (f, c) ∈ t.fields.zip m.columns)
    (hflag : c.HasFlag "primary_key") : t.primaryKeyFields = [f] := by
  obtain ⟨hkey, hsingle⟩ := (Field.hasFlag_primaryKey_iff (column_of_mem_zip h hc)).mp hflag
  have hf : f ∈ t.primaryKeyFields :=
    Table.mem_primaryKeyFields_iff.mpr ⟨(List.of_mem_zip hc).1, hkey⟩
  have hlength : ¬ 1 < t.primaryKeyFields.length := by
    rw [← Table.hasCompositePrimaryKey_iff, hsingle]
    exact Bool.false_ne_true
  obtain ⟨g, hfields⟩ : ∃ g, t.primaryKeyFields = [g] :=
    List.length_eq_one_iff.mp (by have := List.length_pos_of_mem hf; omega)
  rw [hfields, List.mem_singleton] at hf
  rw [hfields, hf]

theorem not_enforcesUnique_of_losesUnique (h : b.modelClass t = .ok m) (hloses : t.LosesUnique i) :
    ¬ t.EnforcesUnique m (t.indexFields i) := by
  intro henforces
  cases hloses with
  | keyMember f g hfields hunique hf hg hname hother =>
      have hkey : f.primaryKey = true := (Table.mem_primaryKeyFields_iff.mp hf).2
      rw [hfields] at henforces
      cases henforces with
      | constraint c hc _ hkind hcolumns =>
          apply hother c hc hkind
          simpa using hcolumns
      | primaryKey hall =>
          have hgf : g = f := List.mem_singleton.mp ((hall g).mpr hg)
          exact hname (congrArg Field.name hgf)
      | column f' c hsingle hc hflag =>
          obtain rfl := (hsingle f).mp (List.mem_singleton_self f)
          have hmember := ((Field.hasFlag_unique_iff (column_of_mem_zip h hc)).mp hflag).2
          exact absurd (hkey.symm.trans hmember) (by decide)
      | keyColumn f' c hsingle hc hflag _ =>
          obtain rfl := (hsingle f).mp (List.mem_singleton_self f)
          rw [primaryKeyFields_of_hasFlag h hc hflag, List.mem_singleton] at hg
          exact hname (congrArg Field.name hg)
  | namesakes hcovers hfields hsingle =>
      cases henforces with
      | constraint c hc _ hkind hcolumns =>
          have hother : c.kind ≠ .primaryKey := by
            rw [hkind]
            exact ConstraintKind.noConfusion
          apply Table.not_columns_of_mem_constraints hc hother
          intro name
          rw [hcolumns, ← Table.mem_indexColumns_iff]
          exact hcovers name
      | primaryKey hall => exact hfields hall
      | column f c hall hc hflag =>
          exact hsingle ⟨f, hall, (Field.hasFlag_unique_iff (column_of_mem_zip h hc)).mp hflag⟩
      | keyColumn f c hall hc hflag _ =>
          apply hfields
          intro g
          rw [primaryKeyFields_of_hasFlag h hc hflag, List.mem_singleton]
          exact hall g

theorem enforcesUnique_of_not_losesUnique (h : b.modelClass t = .ok m) (hi : i ∈ t.indexes)
    (hunique : i.unique = true) (hkey : i.isPrimaryKey = false) (hfields : t.indexFields i ≠ [])
    (hloses : ¬ t.LosesUnique i) : t.EnforcesUnique m (t.indexFields i) := by
  -- The cases are the reasons for which an index is dropped.
  by_contra hnot
  by_cases hcovers : t.CoversPrimaryKey i
  · apply hloses
    refine .namesakes hcovers (fun hall => hnot (.primaryKey hall)) ?_
    rintro ⟨f, hall, hflag, hmember⟩
    exact hnot (enforcesUnique_of_unique h hall hflag hmember)
  by_cases hsingle : t.OverUniqueField i
  · obtain ⟨f, hf, hflag⟩ := hsingle
    have hall : ∀ g, g ∈ t.indexFields i ↔ g = f := by
      intro g
      rw [hf, List.mem_singleton]
    cases hmember : f.primaryKey with
    | false => exact hnot (enforcesUnique_of_unique h hall hflag hmember)
    | true =>
        have hfkey : f ∈ t.primaryKeyFields := by
          refine Table.mem_primaryKeyFields_iff.mpr ⟨?_, hmember⟩
          exact Table.mem_fields_of_mem_indexFields ((hall f).mpr rfl)
        obtain ⟨g, hg, hname⟩ := Table.exists_primaryKeyField_of_not_coversPrimaryKey hf hfkey hcovers
        refine hloses (.keyMember f g hf hflag hfkey hg hname ?_)
        intro c hc hkind hcolumns
        refine hnot (.constraint c hc ?_ hkind ?_)
        · rw [arguments_of_modelClass h]
          exact List.mem_append_left _ (List.mem_map_of_mem hc)
        · simpa [hf] using hcolumns
  · apply hnot
    apply enforcesUnique_of_declared h hi
    rw [Table.indexConstraint?_eq_some_iff]
    exact ⟨hkey, hfields, hcovers, Or.inr ⟨hunique, hsingle, rfl⟩⟩

end Blueprint

/-- **Unique indexes.** The class of a table enforces a unique index, by a constraint, by the primary key or
by the flag of a column, unless the index is lost in one of two ways: its only field is flagged unique and a
member of a composite key, or it has the names of the key and is over other fields. -/
theorem Blueprint.unique_index_enforced_iff {b : Blueprint} {t : Table} {m : ModelClass}
    (h : b.modelClass t = .ok m) {i : Index} (hi : i ∈ t.indexes) (hunique : i.unique = true)
    (hkey : i.isPrimaryKey = false) (hfields : t.indexFields i ≠ []) :
    t.EnforcesUnique m (t.indexFields i) ↔ ¬ t.LosesUnique i := by
  constructor
  · intro henforces hloses
    exact not_enforcesUnique_of_losesUnique h hloses henforces
  · exact enforcesUnique_of_not_losesUnique h hi hunique hkey hfields

namespace Enrolment

/-- The index over courses and seats is declared, since it is over more than one field. -/
theorem seat_index_enforced :
    ∃ m, blueprint.modelClass enrolments = .ok m ∧
      enrolments.EnforcesUnique m (enrolments.indexFields seatIndex) := by
  obtain ⟨m, hm⟩ := exists_modelClass
  have hfields : enrolments.indexFields seatIndex = [courseId, seat] := by decide
  have hkept : ¬ enrolments.LosesUnique seatIndex := by
    intro hloses
    cases hloses with
    | keyMember f g hsingle =>
        rw [hfields] at hsingle
        exact absurd (List.cons.inj hsingle).2 (by decide)
    | namesakes hcovers =>
        exact absurd ((hcovers "seat").mp (by decide)) (by decide)
  exact ⟨m, hm, (Blueprint.unique_index_enforced_iff hm (i := seatIndex) (by decide) rfl rfl
    (by rw [hfields]; exact List.cons_ne_nil _ _)).mpr hkept⟩

/-- The index over students is dropped because their field is flagged unique, and its column is not flagged
because it is a member of the key. What the class declares is unique together with the course only. -/
theorem student_index_lost :
    ∃ text m, diagram.modelsModule {} = .ok text ∧ diagram.blueprint {} = .ok blueprint ∧
      blueprint.modelClass enrolments = .ok m ∧ studentIndex ∈ enrolments.indexes ∧
      studentIndex.unique = true ∧ studentIndex.isPrimaryKey = false ∧
      enrolments.indexFields studentIndex = [studentId] ∧
      m.arguments = ["sa.PrimaryKeyConstraint(\"student_id\", \"course_id\")",
        "sa.UniqueConstraint(\"course_id\", \"seat\", name=\"uq_seat\")",
        ModelClass.schemaArgument "public"] ∧
      ¬ enrolments.EnforcesUnique m (enrolments.indexFields studentIndex) := by
  obtain ⟨text, htext⟩ : ∃ text, diagram.modelsModule {} = .ok text := ⟨_, rfl⟩
  obtain ⟨m, hm⟩ := exists_modelClass
  have hloses : enrolments.LosesUnique studentIndex := by
    refine .keyMember studentId courseId (by decide) rfl (by decide) (by decide) (by decide) ?_
    intro c hc hkind hcolumns
    -- The only unique constraint is over the course and the seat.
    have hseat : ∀ c ∈ enrolments.constraints, c.kind = .unique → "seat" ∈ c.columns := by decide
    exact absurd ((hcolumns "seat").mp (hseat c hc hkind)) (by decide)
  refine ⟨text, m, htext, rfl, hm, by decide, rfl, rfl, by decide, ?_,
    Blueprint.not_enforcesUnique_of_losesUnique hm hloses⟩
  obtain rfl := Except.ok.inj hm
  decide

end Enrolment

end SchemaScribe
