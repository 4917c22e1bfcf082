import SchemaScribe.Proofs.KeyHolders
import SchemaScribe.Proofs.Views

/-!
# Which attributes have a foreign key behind them

The attributes of a relationship without an association table are joined by its foreign key. They are
declared for every relationship, but of several relationships that have their keys at one field only the last
has it there. So a relationship is backed exactly if the last one with the same holder refers to the same
field.
-/

namespace SchemaScribe

open Source

/-- The foreign keys of a column include a reference to this end. -/
def Column.RefersTo (c : Column) (e : Endpoint) : Prop :=
  Field.foreignKeyArgument e ∈ c.arguments.tail

theorem Field.foreignKeyArgument_eq_iff {e e' : Endpoint} :
    foreignKeyArgument e = foreignKeyArgument e' ↔ e.reference = e'.reference := by
  have hargument : ∀ e : Endpoint,
      foreignKeyArgument e = "sa.ForeignKey" ++ "(" ++ ("\"" ++ e.reference ++ "\"") ++ ")" := fun _ => rfl
  rw [hargument, hargument, String.append_left_inj, String.append_right_inj, String.append_left_inj,
    String.append_right_inj]

theorem Column.DeclaresKey.refersTo_iff {c : Column} {e e' : Endpoint} (h : c.DeclaresKey (some e)) :
    c.RefersTo e' ↔ e.reference = e'.reference := by
  have harguments : c.arguments.tail = [Field.foreignKeyArgument e] := h.arguments
  rw [RefersTo, harguments, List.mem_singleton, Field.foreignKeyArgument_eq_iff, eq_comm]

namespace Diagram

variable {d : Diagram}

theorem relationship_of_classify_eq_ok {r : Relationship} {ordinal : Nat} {c : ClassifiedRelationship}
    (h : d.classify r ordinal = .ok c) : c.relationship = r := by
  obtain ⟨source, target, _, rfl⟩ := classify_eq_ok_iff.mp h
  unfold ClassifiedRelationship.ofEndpoints
  cases r.sourceCardinality <;> cases r.targetCardinality <;> rfl

theorem foreignKey?_of_keyHolder?_eq_some {r : Relationship} {ordinal : Nat} {c : ClassifiedRelationship}
    (h : d.classify r ordinal = .ok c) {ids : LooseText × LooseText} (hholder : r.keyHolder? = some ids) :
    ∃ holding referenced, c.foreignKey? = some (holding, referenced) ∧
      d.endpoint r.id ids.1 ids.2 = .ok holding ∧
      d.endpoint r.id r.keyTarget.1 r.keyTarget.2 = .ok referenced := by
  obtain ⟨hkey, hreferenced⟩ := claim?_of_classify h
  rw [hholder, Option.map_eq_some_iff] at hkey
  obtain ⟨entry, hentry, rfl⟩ := hkey
  obtain ⟨⟨holding, referenced⟩, hforeignKey, rfl⟩ := Option.map_eq_some_iff.mp hentry
  obtain ⟨hfirst, hsecond⟩ := foundIn_of_classify_eq_ok h
  refine ⟨holding, referenced, hforeignKey, endpoint_eq_ok_iff.mpr ?_, hreferenced _ hentry⟩
  rcases ClassifiedRelationship.ends_of_foreignKey?_eq_some hforeignKey with ⟨_, rfl, _⟩ | ⟨_, rfl, _⟩
  · exact ⟨hsecond.table, hsecond.field⟩
  · exact ⟨hfirst.table, hfirst.field⟩

/-- What claims a field last is determined by the declared relationships. -/
theorem LastClaim.eq_of_split {ids : LooseText × LooseText} {e e' : Endpoint} (h : d.LastClaim ids e)
    {r : Relationship} {earlier later : List Relationship}
    (hsplit : d.relationships = earlier ++ r :: later) (hholder : r.keyHolder? = some ids)
    (hlater : ∀ s ∈ later, s.keyHolder? ≠ some ids)
    (hend : d.endpoint r.id r.keyTarget.1 r.keyTarget.2 = .ok e') : e = e' := by
  obtain ⟨front, last, back, hsplit', hlast, hback, hend'⟩ := h
  obtain ⟨rfl, _⟩ := eq_of_append_cons_eq_of_forall_not (p := fun s => s.keyHolder? = some ids) hlast
    hholder hback hlater (hsplit'.symm.trans hsplit)
  exact Except.ok.inj (hend'.symm.trans hend)

end Diagram

namespace Blueprint

variable {d : Diagram} {options : Options} {b : Blueprint}

/-- A field that some relationship claims has a foreign key, which is that of the last claim. -/
theorem exists_lastClaim (hb : d.blueprint options = .ok b) {r : Relationship} (hr : r ∈ d.relationships)
    {t : Table} {f : Field} (hholder : r.keyHolder? = some (t.id, f.id)) :
    ∃ last, b.foreignKeys.target? t f = some last ∧ d.LastClaim (t.id, f.id) last := by
  obtain ⟨rs, hrs, rfl⟩ := Diagram.blueprint_eq_ok_iff.mp hb
  cases htarget : (ForeignKeys.ofRelationships rs).target? t f with
  | none => exact absurd hholder ((Diagram.target?_eq_none_iff hrs).mp htarget r hr)
  | some last => exact ⟨last, htarget, Diagram.lastClaim_of_target?_eq_some hrs htarget⟩

theorem exists_column_declaresKey {t : Table} {m : ModelClass} (hm : b.modelClass t = .ok m) {f : Field}
    (hf : f ∈ t.fields) :
    ∃ column, (f, column) ∈ t.fields.zip m.columns ∧ column.DeclaresKey (b.foreignKeys.target? t f) := by
  obtain ⟨column, hmem, hcolumn⟩ := exists_mem_zip_of_forall₂ (forall₂_columns hm) hf
  exact ⟨column, hmem, Field.declaresKey_of_column hcolumn⟩

theorem directed_of_foreignKey? {c : ClassifiedRelationship} (hc : c ∈ b.relationships)
    {ends : Endpoint × Endpoint} (hkey : c.foreignKey? = some ends) {t : Table} {side : Side}
    (hside : c.side? t = some side) :
    (b.relationshipAttribute c side).render ∈ b.relationshipLines t ∧
      (b.relationshipAttribute c side).valuesOf "secondary" = [] := by
  refine ⟨(directedAt_relationshipAttribute hc hside).1, ?_⟩
  rw [valuesOf_secondary, if_neg]
  rcases ClassifiedRelationship.ends_of_foreignKey?_eq_some hkey with ⟨hkind, _⟩ | ⟨hkind, _⟩
  · rw [hkind]
    exact RelationshipKind.noConfusion
  · rw [hkind]
    exact RelationshipKind.noConfusion

end Blueprint

/-- **Join conditions.** The attributes of a relationship that has its foreign key at a field are declared
without an association table. The column of that field refers to the opposite end of the last relationship
with the same holder, so it refers to that of the relationship itself exactly if the two references are the
same. That is so in particular if no later relationship has its key there. -/
theorem Diagram.relationship_backed_iff {d : Diagram} {options : Options} {b : Blueprint}
    (hb : d.blueprint options = .ok b) {classes : List ModelClass}
    (hclasses : b.modelClasses d.tables = .ok classes) {r : Relationship} (hr : r ∈ d.relationships)
    {ids : LooseText × LooseText} (hholder : r.keyHolder? = some ids) :
    ∃ c ∈ b.relationships, ∃ holding referenced last,
      c.relationship = r ∧ c.foreignKey? = some (holding, referenced) ∧
      d.endpoint r.id ids.1 ids.2 = .ok holding ∧
      d.endpoint r.id r.keyTarget.1 r.keyTarget.2 = .ok referenced ∧
      (∀ t side, c.side? t = some side →
        (b.relationshipAttribute c side).render ∈ b.relationshipLines t ∧
        (b.relationshipAttribute c side).valuesOf "secondary" = []) ∧
      d.LastClaim ids last ∧
      (∀ earlier later, d.relationships = earlier ++ r :: later →
        (∀ s ∈ later, s.keyHolder? ≠ some ids) → last = referenced) ∧
      (holding.table.isView = false → ∃ m ∈ classes, b.modelClass holding.table = .ok m ∧
        ∃ column, (holding.field, column) ∈ holding.table.fields.zip m.columns ∧
          column.DeclaresKey (some last) ∧
          (column.RefersTo referenced ↔ last.reference = referenced.reference)) := by
  obtain ⟨c, hc, ordinal, hclassify⟩ := exists_classified hb hr
  obtain ⟨holding, referenced, hkey, hholding, hreferenced⟩ :=
    foreignKey?_of_keyHolder?_eq_some hclassify hholder
  obtain ⟨hfound, htable, hfield⟩ := foundIn_of_endpoint_eq_ok hholding
  obtain rfl : (holding.table.id, holding.field.id) = ids := Prod.ext htable hfield
  obtain ⟨last, htarget, hlast⟩ := Blueprint.exists_lastClaim hb hr hholder
  refine ⟨c, hc, holding, referenced, last, relationship_of_classify_eq_ok hclassify, hkey, hholding,
    hreferenced, fun _ _ => Blueprint.directed_of_foreignKey? hc hkey, hlast, ?_, ?_⟩
  · intro earlier later hsplit hlater
    exact hlast.eq_of_split hsplit hholder hlater hreferenced
  · intro hview
    obtain ⟨m, hm, hclass⟩ :=
      Blueprint.exists_modelClass hclasses (mem_of_table?_eq_some hfound.table) hview
    obtain ⟨column, hcolumn, hdeclares⟩ :=
      Blueprint.exists_column_declaresKey hclass (List.mem_of_find?_eq_some hfound.field)
    rw [htarget] at hdeclares
    exact ⟨m, hm, hclass, column, hcolumn, hdeclares, hdeclares.refersTo_iff⟩

namespace Warehouse

def ownerId : Field := { id := "o1", name := "id", type := ⟨"integer", none⟩, primaryKey := true }

def groupId : Field := { id := "g1", name := "id", type := ⟨"integer", none⟩, primaryKey := true }

def itemRef : Field := { id := "i1", name := "ref_id", type := ⟨"integer", none⟩ }

def owners : Table := { id := "o", name := "owners", fields := [ownerId] }

def groups : Table := { id := "g", name := "groups", fields := [groupId] }

def items : Table := { id := "i", name := "items", fields := [itemRef] }

def ownership : Relationship := ⟨"o", "o1", "i", "i1", .one, .many, none, none, none⟩

def grouping : Relationship := ⟨"g", "g1", "i", "i1", .one, .many, none, none, none⟩

/-- Items have owners and groups by the same field. -/
def diagram : Diagram where
  tables := [owners, groups, items]
  relationships := [ownership, grouping]

/-- The field refers to the groups, whose relationship is the last one that claims it. -/
theorem grouping_backed :
    ∃ b classes m column e, diagram.blueprint {} = .ok b ∧ b.modelClasses diagram.tables = .ok classes ∧
      grouping ∈ diagram.relationships ∧ m ∈ classes ∧ b.modelClass items = .ok m ∧
      (itemRef, column) ∈ items.fields.zip m.columns ∧ e.reference = "groups.id" ∧ column.RefersTo e := by
  obtain ⟨b, hb⟩ : ∃ b, diagram.blueprint {} = .ok b := ⟨_, rfl⟩
  obtain ⟨classes, hclasses⟩ : ∃ classes, b.modelClasses diagram.tables = .ok classes := by
    obtain rfl := Except.ok.inj hb
    exact ⟨_, rfl⟩
  obtain ⟨_, _, holding, referenced, last, _, _, hholding, hreferenced, _, _, hlast, hcolumn⟩ :=
    Diagram.relationship_backed_iff hb hclasses (r := grouping) (by decide) rfl
  obtain rfl : ⟨items, itemRef⟩ = holding := Except.ok.inj hholding
  obtain rfl : ⟨groups, groupId⟩ = referenced := Except.ok.inj hreferenced
  obtain ⟨m, hm, hclass, column, hmem, _, hrefers⟩ := hcolumn rfl
  obtain rfl := hlast [ownership] [] rfl (by simp)
  exact ⟨b, classes, m, column, _, hb, hclasses, by decide, hm, hclass, hmem, by decide, hrefers.mpr rfl⟩

/-- The owners and the items have attributes for their relationship, and no column of the module refers to
the owners. -/
theorem ownership_unbacked :
    ∃ text b ownersClass groupsClass itemsClass c, diagram.modelsModule {} = .ok text ∧
      diagram.blueprint {} = .ok b ∧ (diagram.tables.map (·.id)).Nodup ∧
      (∀ t ∈ diagram.tables, t.isView = false) ∧
      b.modelClasses diagram.tables = .ok [ownersClass, groupsClass, itemsClass] ∧
      c ∈ b.relationships ∧ c.relationship = ownership ∧ c.kind = .oneToMany ∧
      c.foreignKey? = some (⟨items, itemRef⟩, ⟨owners, ownerId⟩) ∧
      (b.relationshipAttribute c .first).render ∈ ownersClass.relationships ∧
      (b.relationshipAttribute c .second).render ∈ itemsClass.relationships ∧
      Endpoint.reference ⟨owners, ownerId⟩ = "owners.id" ∧
      ownersClass.foreignKeyArguments = [] ∧ groupsClass.foreignKeyArguments = [] ∧
      itemsClass.foreignKeyArguments = ["sa.ForeignKey(\"groups.id\")"] :=
  ⟨_, _, _, _, _, _, rfl, rfl, by decide, by decide, rfl, List.mem_cons_self, rfl, rfl, rfl, by decide,
    by decide, by decide, by decide, by decide, by decide⟩

end Warehouse

end SchemaScribe
