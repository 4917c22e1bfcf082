import SchemaScribe.Proofs.DeclaredSchema

/-!
# What a class says about keys and uniqueness

It says so in two places: columns by flags, and the table by constraints. The flags of a column follow from
what its field is declared to be and from whether the primary key is composite. The constraints come from
the composite key and from those indexes that are not dropped.
-/

namespace SchemaScribe

open Source

/-! ### The flags of a column -/

/-- The column has this keyword with the value `True`. -/
def Column.HasFlag (c : Column) (flag : String) : Prop :=
  (⟨flag, "True"⟩ : Keyword) ∈ c.keywords

instance (c : Column) (flag : String) : Decidable (c.HasFlag flag) :=
  inferInstanceAs (Decidable (_ ∈ c.keywords))

namespace Field

variable {f : Field} {types : TypeContext} {compositeKey : Bool} {foreignKey : Option Endpoint} {c : Column}

theorem primaryKey_mem_keywords_iff :
    (⟨"primary_key", "True"⟩ : Keyword) ∈ f.keywords compositeKey foreignKey ↔
      f.primaryKey = true ∧ compositeKey = false := by
  have hdefault : (⟨"primary_key", "True"⟩ : Keyword) ∉ f.defaultKeywords := by
    intro h
    simpa using f.name_of_mem_defaultKeywords _ h
  unfold keywords
  simp [List.mem_append, hdefault]

theorem unique_mem_keywords_iff :
    (⟨"unique", "True"⟩ : Keyword) ∈ f.keywords compositeKey foreignKey ↔
      f.unique = true ∧ f.primaryKey = false := by
  have hdefault : (⟨"unique", "True"⟩ : Keyword) ∉ f.defaultKeywords := by
    intro h
    simpa using f.name_of_mem_defaultKeywords _ h
  unfold keywords
  simp [List.mem_append, hdefault]

theorem hasFlag_primaryKey_iff (h : f.column types compositeKey foreignKey = .ok c) :
    c.HasFlag "primary_key" ↔ f.primaryKey = true ∧ compositeKey = false := by
  obtain ⟨_, _, rfl⟩ := column_eq_ok_iff.mp h
  exact primaryKey_mem_keywords_iff

theorem hasFlag_unique_iff (h : f.column types compositeKey foreignKey = .ok c) :
    c.HasFlag "unique" ↔ f.unique = true ∧ f.primaryKey = false := by
  obtain ⟨_, _, rfl⟩ := column_eq_ok_iff.mp h
  exact unique_mem_keywords_iff

end Field

/-! ### The constraints of a table -/

namespace Table

variable {t : Table} {i : Index} {c : TableConstraint}

theorem mem_primaryKeyFields_iff {f : Field} :
    f ∈ t.primaryKeyFields ↔ f ∈ t.fields ∧ f.primaryKey = true :=
  List.mem_filter

theorem hasCompositePrimaryKey_iff : t.hasCompositePrimaryKey = true ↔ 1 < t.primaryKeyFields.length := by
  unfold hasCompositePrimaryKey
  rw [decide_eq_true_eq]

theorem mem_fields_of_mem_indexFields {f : Field} (h : f ∈ t.indexFields i) : f ∈ t.fields := by
  obtain ⟨id, _, hid⟩ := List.mem_filterMap.mp h
  exact List.mem_of_find?_eq_some hid

theorem sameMembers_iff {xs ys : List String} : sameMembers xs ys = true ↔ ∀ x, x ∈ xs ↔ x ∈ ys := by
  unfold sameMembers
  simp only [Bool.and_eq_true, List.all_eq_true, List.contains_iff_mem]
  constructor
  · rintro ⟨hxs, hys⟩ x
    exact ⟨hxs x, hys x⟩
  · intro h
    exact ⟨fun x => (h x).mp, fun x => (h x).mpr⟩

/-- The names of the fields of an index. -/
def indexColumns (t : Table) (i : Index) : List String :=
  (t.indexFields i).map (·.name)

theorem mem_indexColumns_iff {name : String} :
    name ∈ t.indexColumns i ↔ ∃ f ∈ t.indexFields i, f.name = name :=
  List.mem_map

theorem mem_primaryKeyNames_iff {name : String} :
    name ∈ t.primaryKeyNames ↔ ∃ f ∈ t.primaryKeyFields, f.name = name :=
  List.mem_map

/-- The columns of an index are those of the primary key, in whatever order. -/
def CoversPrimaryKey (t : Table) (i : Index) : Prop :=
  ∀ name, name ∈ t.indexColumns i ↔ name ∈ t.primaryKeyNames

/-- The index is over a single field, which is flagged unique. -/
def OverUniqueField (t : Table) (i : Index) : Prop :=
  ∃ f, t.indexFields i = [f] ∧ f.unique = true

theorem overUniqueField_iff :
    ((t.indexFields i).length = 1 && (t.indexFields i).all (·.unique)) = true ↔ t.OverUniqueField i := by
  unfold OverUniqueField
  rw [Bool.and_eq_true, decide_eq_true_eq, List.length_eq_one_iff]
  constructor
  · rintro ⟨⟨f, hf⟩, hall⟩
    rw [hf] at hall
    exact ⟨f, hf, by simpa using hall⟩
  · rintro ⟨f, hf, hunique⟩
    refine ⟨⟨f, hf⟩, ?_⟩
    rw [hf]
    simpa using hunique

/-- Which indexes are declared, and how. -/
theorem indexConstraint?_eq_some_iff :
    t.indexConstraint? i = some c ↔
      i.isPrimaryKey = false ∧ t.indexFields i ≠ [] ∧ ¬ t.CoversPrimaryKey i ∧
        ((i.unique = false ∧ c = ⟨.index, t.indexColumns i, i.name⟩) ∨
          (i.unique = true ∧ ¬ t.OverUniqueField i ∧ c = ⟨.unique, t.indexColumns i, i.name⟩)) := by
  have hcovers : sameMembers ((t.indexFields i).map (·.name)) t.primaryKeyNames = true ↔
      t.CoversPrimaryKey i := sameMembers_iff
  unfold indexConstraint? indexFate
  rw [← hcovers, ← overUniqueField_iff]
  simp only [indexColumns]
  by_cases hkey : i.isPrimaryKey = true
  · simp [hkey]
  by_cases hempty : t.indexFields i = []
  · simp [hkey, hempty]
  by_cases hsame : sameMembers ((t.indexFields i).map (·.name)) t.primaryKeyNames = true
  · simp [hkey, hempty, hsame]
  cases hunique : i.unique with
  | false => simpa [hkey, hempty, hsame] using eq_comm
  | true =>
      by_cases hsingle : ((t.indexFields i).length = 1 && (t.indexFields i).all (·.unique)) = true
      · simp [hkey, hempty, hsame, hsingle]
      · simpa [hkey, hempty, hsame, hsingle] using eq_comm

theorem mem_constraints_iff :
    c ∈ t.constraints ↔
      (t.hasCompositePrimaryKey = true ∧ c = ⟨.primaryKey, t.primaryKeyNames, ""⟩) ∨
        ∃ i ∈ t.indexes, t.indexConstraint? i = some c := by
  unfold constraints primaryKeyConstraint?
  rw [List.mem_append, List.mem_filterMap]
  by_cases hcomposite : t.hasCompositePrimaryKey = true
  · simp [hcomposite]
  · simp [hcomposite]

theorem kind_of_indexConstraint?_eq_some (h : t.indexConstraint? i = some c) : c.kind ≠ .primaryKey := by
  obtain ⟨_, _, _, ⟨_, rfl⟩ | ⟨_, _, rfl⟩⟩ := indexConstraint?_eq_some_iff.mp h
  · exact ConstraintKind.noConfusion
  · exact ConstraintKind.noConfusion

/-- No index is declared over the columns of the primary key. -/
theorem not_columns_of_mem_constraints (hc : c ∈ t.constraints) (hkind : c.kind ≠ .primaryKey) :
    ¬ ∀ name, name ∈ c.columns ↔ name ∈ t.primaryKeyNames := by
  rcases mem_constraints_iff.mp hc with ⟨_, rfl⟩ | ⟨i, _, hi⟩
  · exact absurd rfl hkind
  · obtain ⟨_, _, hcovers, ⟨_, rfl⟩ | ⟨_, _, rfl⟩⟩ := indexConstraint?_eq_some_iff.mp hi
    · exact hcovers
    · exact hcovers

end Table

theorem Blueprint.arguments_of_modelClass {b : Blueprint} {t : Table} {m : ModelClass}
    (h : b.modelClass t = .ok m) :
    m.arguments = t.constraints.map TableConstraint.render ++
      (t.effectiveSchema b.database).toList.map ModelClass.schemaArgument := by
  obtain ⟨_, _, rfl⟩ := modelClass_eq_ok_iff.mp h
  have harguments : t.arguments (t.effectiveSchema b.database) =
      t.constraints.map TableConstraint.render ++
        (nonEmpty (t.effectiveSchema b.database)).toList.map ModelClass.schemaArgument := rfl
  rw [harguments, Table.nonEmpty_effectiveSchema]

/-! ### A table to try statements on

The key of the enrolments has two members, and the first of them has a unique index of its own. -/

namespace Enrolment

def studentId : Field where
  id := "s"
  name := "student_id"
  type := ⟨"bigint", none⟩
  primaryKey := true
  unique := true

def courseId : Field := { id := "c", name := "course_id", type := ⟨"bigint", none⟩, primaryKey := true }

def ticket : Field := { id := "k", name := "ticket", type := ⟨"bigint", none⟩, unique := true }

def seat : Field := { id := "p", name := "seat", type := ⟨"bigint", none⟩ }

def studentIndex : Index := { name := "uq_student", fieldIds := ["s"], unique := true }

def pairIndex : Index := { name := "uq_pair", fieldIds := ["c", "s"], unique := true }

def ticketIndex : Index := { name := "uq_ticket", fieldIds := ["k"], unique := true }

def seatIndex : Index := { name := "uq_seat", fieldIds := ["c", "p", "x"], unique := true }

def enrolments : Table where
  id := "e"
  name := "enrolments"
  fields := [studentId, courseId, ticket, seat]
  indexes := [studentIndex, pairIndex, ticketIndex, seatIndex]

def diagram : Diagram where
  databaseType := .postgresql
  tables := [enrolments]

def blueprint : Blueprint := .ofRelationships diagram {} []

theorem exists_modelClass : ∃ m, blueprint.modelClass enrolments = .ok m := ⟨_, rfl⟩

end Enrolment

end SchemaScribe
