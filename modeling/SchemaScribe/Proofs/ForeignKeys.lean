import SchemaScribe.Proofs.AssociationIndex
import SchemaScribe.Proofs.Entries
import SchemaScribe.Proofs.ModelClass

/-!
# The references of a module

A module refers to ends of relationships: from the columns of its classes and from those of its association
tables. Whatever it refers to is in the diagram, since foreign keys come from classified relationships.
-/

namespace SchemaScribe

theorem ForeignKeys.exists_of_target?_eq_some {rs : List ClassifiedRelationship} {t : Table} {f : Field}
    {e : Endpoint} (h : (ofRelationships rs).target? t f = some e) :
    ∃ r ∈ rs, ∃ holding, r.foreignKey? = some (holding, e) ∧ holder holding = (t.id, f.id) := by
  rw [target?, ofRelationships, Entries.lookup_ofList, List.lookup_eq_some_iff] at h
  obtain ⟨later, earlier, hclaims, _⟩ := h
  have hclaim : ((t.id, f.id), e) ∈ claims rs := by
    rw [← List.mem_reverse, hclaims]
    exact List.mem_append_right later List.mem_cons_self
  obtain ⟨r, hr, hkey⟩ := List.mem_filterMap.mp hclaim
  obtain ⟨⟨holding, referenced⟩, hforeignKey, hpair⟩ := Option.map_eq_some_iff.mp hkey
  obtain ⟨hholder, rfl⟩ := Prod.mk.inj hpair
  exact ⟨r, hr, holding, hforeignKey, hholder⟩

theorem ClassifiedRelationship.ends_of_foreignKey?_eq_some {r : ClassifiedRelationship}
    {holding referenced : Endpoint} (h : r.foreignKey? = some (holding, referenced)) :
    (r.kind = .oneToMany ∧ holding = r.second ∧ referenced = r.first) ∨
      (r.kind = .oneToOne ∧ holding = r.first ∧ referenced = r.second) := by
  unfold foreignKey? at h
  cases hkind : r.kind with
  | oneToMany =>
      rw [hkind] at h
      obtain ⟨rfl, rfl⟩ := Prod.mk.inj (Option.some.inj h)
      exact Or.inl ⟨rfl, rfl, rfl⟩
  | oneToOne =>
      rw [hkind] at h
      obtain ⟨rfl, rfl⟩ := Prod.mk.inj (Option.some.inj h)
      exact Or.inr ⟨rfl, rfl, rfl⟩
  | manyToMany =>
      rw [hkind] at h
      exact absurd h.symm (Option.some_ne_none _)

/-- The foreign keys that the columns of a class declare: what their arguments say besides the type. -/
def ModelClass.foreignKeyArguments (m : ModelClass) : List String :=
  m.columns.flatMap (·.arguments.tail)

namespace Blueprint

/-- What the class of a table refers to, in the order of its columns. -/
def columnReferences (b : Blueprint) (t : Table) : List Endpoint :=
  t.fields.flatMap fun f => (b.foreignKeys.target? t f).toList

/-- What the classes and the association tables of a module refer to. -/
def references (b : Blueprint) (tables : List Table) : List Endpoint :=
  (tables.filter (!·.isView)).flatMap b.columnReferences ++
    b.associations.flatMap fun a => [a.left.target, a.right.target]

variable {d : Diagram} {options : Options} {b : Blueprint}

theorem foreignKeyArguments_of_modelClass {t : Table} {m : ModelClass} (h : b.modelClass t = .ok m) :
    m.foreignKeyArguments = (b.columnReferences t).map Field.foreignKeyArgument := by
  obtain ⟨columns, hcolumns, rfl⟩ := modelClass_eq_ok_iff.mp h
  unfold ModelClass.foreignKeyArguments columnReferences
  rw [List.map_flatMap]
  apply flatMap_eq_of_mapM_eq_ok hcolumns
  intro f c hc
  obtain ⟨type, hargs⟩ := Field.arguments_of_column hc
  rw [hargs, List.tail_cons]

theorem foreignKeyArguments_of_modelClasses {tables : List Table} {classes : List ModelClass}
    (h : b.modelClasses tables = .ok classes) :
    classes.flatMap ModelClass.foreignKeyArguments =
      ((tables.filter (!·.isView)).flatMap b.columnReferences).map Field.foreignKeyArgument := by
  rw [List.map_flatMap]
  exact flatMap_eq_of_mapM_eq_ok h fun _ _ => foreignKeyArguments_of_modelClass

theorem mem_joined_iff (hb : d.blueprint options = .ok b) {e : Endpoint} :
    (e ∈ b.associations.flatMap fun a => [a.left.target, a.right.target]) ↔
      ∃ r ∈ b.relationships, r.kind = .manyToMany ∧ (e = r.first ∨ e = r.second) := by
  obtain ⟨rs, _, rfl⟩ := Diagram.blueprint_eq_ok_iff.mp hb
  have hends : ∀ {r : ClassifiedRelationship} {a : AssociationTable},
      AssociationTable.ofRelationship? d.databaseType r = some a →
        (e ∈ [a.left.target, a.right.target] ↔ e = r.first ∨ e = r.second) := by
    intro r a ha
    obtain ⟨hleft, hright, _⟩ := AssociationTable.columns_of_ofRelationship? ha
    rw [hleft, hright, List.mem_cons, List.mem_singleton]
    rfl
  rw [List.mem_flatMap]
  constructor
  · rintro ⟨a, ha, he⟩
    obtain ⟨r, hr, hra⟩ := AssociationTable.mem_ofRelationships_iff.mp ha
    exact ⟨r, hr, AssociationTable.kind_of_ofRelationship? hra, (hends hra).mp he⟩
  · rintro ⟨r, hr, hkind, he⟩
    obtain ⟨a, ha⟩ := AssociationTable.exists_ofRelationship? d.databaseType hkind
    exact ⟨a, AssociationTable.mem_ofRelationships_iff.mpr ⟨r, hr, ha⟩, (hends ha).mpr he⟩

theorem foundIn_of_mem_references (hb : d.blueprint options = .ok b) {tables : List Table} {e : Endpoint}
    (he : e ∈ b.references tables) : e.FoundIn d := by
  rcases List.mem_append.mp he with he | he
  · obtain ⟨rs, hrs, rfl⟩ := Diagram.blueprint_eq_ok_iff.mp hb
    obtain ⟨t, _, he⟩ := List.mem_flatMap.mp he
    obtain ⟨f, _, he⟩ := List.mem_flatMap.mp he
    obtain ⟨r, hr, holding, hkey, _⟩ := ForeignKeys.exists_of_target?_eq_some (Option.mem_toList.mp he)
    have hends := Diagram.foundIn_of_mem_classifyAll hrs hr
    rcases ClassifiedRelationship.ends_of_foreignKey?_eq_some hkey with ⟨_, _, rfl⟩ | ⟨_, _, rfl⟩
    · exact hends.1
    · exact hends.2
  · obtain ⟨r, hr, _, rfl | rfl⟩ := (mem_joined_iff hb).mp he
    · exact (Diagram.foundIn_of_mem_relationships hb hr).1
    · exact (Diagram.foundIn_of_mem_relationships hb hr).2

end Blueprint

end SchemaScribe
