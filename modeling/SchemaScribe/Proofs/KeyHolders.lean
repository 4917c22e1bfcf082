import SchemaScribe.Proofs.ForeignKeys

/-!
# Which columns hold foreign keys

A relationship as it is declared says which field holds its foreign key: the one at its many side, or the
one at its source if both sides are one. Several relationships may claim a field. Its column then refers to
the opposite end of the last of them, wherever the others stand and whatever they are.
-/

namespace SchemaScribe

open Source

/-! ### What a relationship claims -/

namespace Relationship

/-- The ids of the table and the field that hold the foreign key of a relationship. -/
def keyHolder? (r : Relationship) : Option (LooseText × LooseText) :=
  match r.sourceCardinality, r.targetCardinality with
  | .one, .many => some (r.targetTableId, r.targetFieldId)
  | .many, .one => some (r.sourceTableId, r.sourceFieldId)
  | .one, .one => some (r.sourceTableId, r.sourceFieldId)
  | .many, .many => none

/-- The ids of the table and the field at the end opposite to the holder. -/
def keyTarget (r : Relationship) : LooseText × LooseText :=
  match r.sourceCardinality, r.targetCardinality with
  | .one, .many => (r.sourceTableId, r.sourceFieldId)
  | _, _ => (r.targetTableId, r.targetFieldId)

end Relationship

namespace ClassifiedRelationship

/-- The foreign key of a relationship, as an entry. -/
def claim? (r : ClassifiedRelationship) : Option ((LooseText × LooseText) × Endpoint) :=
  r.foreignKey?.map fun (holding, referenced) => (ForeignKeys.holder holding, referenced)

end ClassifiedRelationship

theorem ForeignKeys.claims_eq (rs : List ClassifiedRelationship) :
    claims rs = rs.filterMap ClassifiedRelationship.claim? := rfl

namespace Diagram

variable {d : Diagram}

/-- The last relationship of the diagram that has its foreign key at `ids` leads to `e`. -/
def LastClaim (d : Diagram) (ids : LooseText × LooseText) (e : Endpoint) : Prop :=
  ∃ earlier r later, d.relationships = earlier ++ r :: later ∧ r.keyHolder? = some ids ∧
    (∀ s ∈ later, s.keyHolder? ≠ some ids) ∧
    d.endpoint r.id r.keyTarget.1 r.keyTarget.2 = .ok e

theorem claim?_of_classify {r : Relationship} {ordinal : Nat} {c : ClassifiedRelationship}
    (h : d.classify r ordinal = .ok c) :
    c.claim?.map Prod.fst = r.keyHolder? ∧
      ∀ entry, c.claim? = some entry → d.endpoint r.id r.keyTarget.1 r.keyTarget.2 = .ok entry.2 := by
  obtain ⟨source, target, hends, rfl⟩ := classify_eq_ok_iff.mp h
  obtain ⟨hsource, htarget⟩ := endpoints_eq_ok_iff.mp hends
  obtain ⟨_, hsourceTable, hsourceField⟩ := foundIn_of_endpoint_eq_ok hsource
  obtain ⟨_, htargetTable, htargetField⟩ := foundIn_of_endpoint_eq_ok htarget
  unfold ClassifiedRelationship.claim? ClassifiedRelationship.ofEndpoints Relationship.keyHolder?
    Relationship.keyTarget
  cases r.sourceCardinality <;> cases r.targetCardinality <;>
    simp [ClassifiedRelationship.foreignKey?, ForeignKeys.holder, hsource, htarget, hsourceTable,
      hsourceField, htargetTable, htargetField]

theorem map_fst_claims {rs : List ClassifiedRelationship} (h : d.classifyAll = .ok rs) :
    (ForeignKeys.claims rs).map Prod.fst = d.relationships.filterMap Relationship.keyHolder? := by
  rw [ForeignKeys.claims_eq, List.map_filterMap]
  apply filterMap_eq_of_forall₂ (forall₂_of_classifyFrom h).flip
  rintro c r ⟨_, hclassify⟩
  exact (claim?_of_classify hclassify).1

theorem target?_eq_none_iff {rs : List ClassifiedRelationship} (h : d.classifyAll = .ok rs) {t : Table}
    {f : Field} :
    (ForeignKeys.ofRelationships rs).target? t f = none ↔
      ∀ r ∈ d.relationships, r.keyHolder? ≠ some (t.id, f.id) := by
  have hholders : (∀ entry ∈ ForeignKeys.claims rs, entry.1 ≠ (t.id, f.id)) ↔
      (t.id, f.id) ∉ d.relationships.filterMap Relationship.keyHolder? := by
    rw [← map_fst_claims h, List.mem_map]
    constructor
    · rintro hne ⟨entry, hentry, heq⟩
      exact hne entry hentry heq
    · intro hnone entry hentry heq
      exact hnone ⟨entry, hentry, heq⟩
  rw [ForeignKeys.target?, ForeignKeys.ofRelationships, Entries.lookup_ofList_eq_none_iff, hholders,
    List.mem_filterMap]
  simp only [not_exists, not_and, ne_eq]

theorem lastClaim_of_target?_eq_some {rs : List ClassifiedRelationship} (h : d.classifyAll = .ok rs)
    {t : Table} {f : Field} {e : Endpoint}
    (htarget : (ForeignKeys.ofRelationships rs).target? t f = some e) : d.LastClaim (t.id, f.id) e := by
  rw [ForeignKeys.target?, ForeignKeys.ofRelationships, Entries.lookup_ofList_eq_some_iff,
    ForeignKeys.claims_eq] at htarget
  obtain ⟨earlierClaims, laterClaims, hclaims, hlater⟩ := htarget
  -- The split at the last claim is carried back to classified, then to declared relationships.
  obtain ⟨front, rest, rfl, _, hrest⟩ := List.filterMap_eq_append_iff.mp hclaims
  obtain ⟨skipped, c, back, rfl, _, hclaim, hback⟩ := List.filterMap_eq_cons_iff.mp hrest
  have hall := forall₂_of_classifyFrom h
  rw [← List.append_assoc] at hall
  obtain ⟨earlier, r, later, hsplit, ⟨i, hclassify⟩, hlaterAll⟩ := exists_split_of_forall₂ hall
  obtain ⟨hholder, hend⟩ := claim?_of_classify hclassify
  refine ⟨earlier, r, later, hsplit, ?_, ?_, hend _ hclaim⟩
  · rw [← hholder, hclaim, Option.map_some]
  · intro s hs hkey
    obtain ⟨c', hc', j, hclassify'⟩ := exists_of_forall₂ hlaterAll hs
    rw [← (claim?_of_classify hclassify').1, Option.map_eq_some_iff] at hkey
    obtain ⟨entry, hentry, heq⟩ := hkey
    apply hlater entry _ heq
    rw [← hback]
    exact List.mem_filterMap.mpr ⟨c', hc', hentry⟩

end Diagram

/-- Many-to-many relationships add nothing, so foreign keys stay the same without them. -/
theorem ForeignKeys.ofRelationships_filter_ne_manyToMany (rs : List ClassifiedRelationship) :
    ofRelationships (rs.filter (·.kind ≠ .manyToMany)) = ofRelationships rs := by
  have hnone : ∀ r : ClassifiedRelationship, r.kind = .manyToMany → r.claim? = none := by
    intro r hkind
    rw [ClassifiedRelationship.claim?, ClassifiedRelationship.foreignKey?, hkind]
    rfl
  unfold ofRelationships
  rw [claims_eq, claims_eq, List.filterMap_filter]
  congr 1
  apply List.filterMap_congr
  intro r _
  by_cases hkind : r.kind = .manyToMany
  · simp [hkind, hnone r hkind]
  · simp [hkind]

/-! ### What a column declares -/

/-- The column refers to `target` and has an index, or does neither. -/
structure Column.DeclaresKey (c : Column) (target : Option Endpoint) : Prop where
  arguments : c.arguments.tail = target.toList.map Field.foreignKeyArgument
  index : c.keywords.filter (·.name = "index") = target.toList.map fun _ => ⟨"index", "True"⟩
  text : ∀ e ∈ target, ∃ front middle back,
    c.render = front ++ Field.foreignKeyArgument e ++ middle ++ "index=True" ++ back

namespace Field

variable {f : Field} {compositeKey : Bool} {foreignKey : Option Endpoint}

theorem filter_defaultKeywords_index (f : Field) :
    f.defaultKeywords.filter (·.name = "index") = [] := by
  rw [List.filter_eq_nil_iff]
  intro k hk
  rcases f.name_of_mem_defaultKeywords k hk with hname | hname <;> simp [hname]

theorem filter_keywords_index (f : Field) (compositeKey : Bool) (foreignKey : Option Endpoint) :
    (f.keywords compositeKey foreignKey).filter (·.name = "index") =
      foreignKey.toList.map fun _ => ⟨"index", "True"⟩ := by
  unfold keywords
  simp only [List.filter_append, filter_defaultKeywords_index, apply_ite (List.filter _)]
  cases foreignKey <;> simp

end Field

theorem Field.declaresKey_of_column {f : Field} {types : TypeContext} {compositeKey : Bool}
    {foreignKey : Option Endpoint} {c : Column} (h : f.column types compositeKey foreignKey = .ok c) :
    c.DeclaresKey foreignKey := by
  obtain ⟨type, _, hc⟩ := column_eq_ok_iff.mp h
  have harguments : c.arguments = type :: foreignKey.toList.map foreignKeyArgument := by
    rw [hc]
  have hindex : c.keywords.filter (·.name = "index") =
      foreignKey.toList.map fun _ => ⟨"index", "True"⟩ := by
    rw [hc]
    exact f.filter_keywords_index compositeKey foreignKey
  refine ⟨?_, hindex, ?_⟩
  · rw [harguments, List.tail_cons]
  · intro e he
    obtain rfl := Option.mem_def.mp he
    have hargument : foreignKeyArgument e ∈ c.arguments := by
      rw [harguments]
      exact List.mem_cons_of_mem type List.mem_cons_self
    have hkeyword : (⟨"index", "True"⟩ : Keyword) ∈ c.keywords := by
      apply List.mem_of_mem_filter
      rw [hindex]
      exact List.mem_cons_self
    obtain ⟨front, middle, back, htext⟩ := Column.exists_render_eq hargument hkeyword
    exact ⟨front, middle ++ ", ", back, by rw [htext, ← String.append_assoc]; rfl⟩

/-! ### The columns of a module -/

/-- **Foreign keys of columns.** In the class of a table, the column of a field refers to something, and has
an index, exactly if some relationship has its foreign key at the ids of that table and field. It refers to
the end opposite to it in the last such relationship. Many-to-many relationships never count, and the
holders of foreign keys are listed as they are claimed first, each once. -/
theorem Diagram.foreign_key_of_last_claim {d : Diagram} {options : Options} {b : Blueprint}
    (hb : d.blueprint options = .ok b) {classes : List ModelClass}
    (hclasses : b.modelClasses d.tables = .ok classes) :
    (∀ t ∈ d.tables, t.isView = false → ∃ m ∈ classes, b.modelClass t = .ok m ∧
      List.Forall₂ (fun f c => ∃ target,
        f.column b.types t.hasCompositePrimaryKey target = .ok c ∧ c.DeclaresKey target ∧
        (target.isSome ↔ ∃ r ∈ d.relationships, r.keyHolder? = some (t.id, f.id)) ∧
        ∀ e ∈ target, d.LastClaim (t.id, f.id) e) t.fields m.columns) ∧
    ForeignKeys.ofRelationships (b.relationships.filter (·.kind ≠ .manyToMany)) = b.foreignKeys ∧
    b.foreignKeys.map Prod.fst = (d.relationships.filterMap Relationship.keyHolder?).eraseDups ∧
    (b.foreignKeys.map Prod.fst).Nodup := by
  obtain ⟨rs, hrs, rfl⟩ := blueprint_eq_ok_iff.mp hb
  have hholders : (ForeignKeys.ofRelationships rs).map Prod.fst =
      (d.relationships.filterMap Relationship.keyHolder?).eraseDups := by
    rw [ForeignKeys.ofRelationships, Entries.map_fst_ofList, map_fst_claims hrs]
  refine ⟨?_, ForeignKeys.ofRelationships_filter_ne_manyToMany rs, hholders, ?_⟩
  · intro t ht hview
    obtain ⟨m, hm, hclass⟩ := Blueprint.exists_modelClass hclasses ht hview
    refine ⟨m, hm, hclass, (Blueprint.forall₂_columns hclass).imp ?_⟩
    intro f c hcolumn
    refine ⟨_, hcolumn, Field.declaresKey_of_column hcolumn, ?_, ?_⟩
    · have hnone := target?_eq_none_iff hrs (t := t) (f := f)
      rw [Option.isSome_iff_ne_none, Ne, Blueprint.ofRelationships, hnone]
      simp only [ne_eq, not_forall, not_not, exists_prop]
    · intro e he
      exact lastClaim_of_target?_eq_some hrs (Option.mem_def.mp he)
  · rw [Blueprint.ofRelationships, hholders]
    exact nodup_eraseDups (d.relationships.filterMap Relationship.keyHolder?)

namespace Office

def personId : Field := { id := "p1", name := "id", type := ⟨"bigint", none⟩, primaryKey := true }

def roomId : Field := { id := "r1", name := "id", type := ⟨"bigint", none⟩, primaryKey := true }

def deskId : Field := { id := "d1", name := "id", type := ⟨"bigint", none⟩, primaryKey := true }

def deskPlace : Field := { id := "d2", name := "place", type := ⟨"bigint", none⟩ }

def desks : Table := { id := "d", name := "desks", fields := [deskId, deskPlace] }

/-- The place of a desk is claimed for people at first, then for rooms. -/
def diagram : Diagram where
  tables := [{ id := "p", name := "people", fields := [personId] },
    { id := "r", name := "rooms", fields := [roomId] }, desks]
  relationships := [⟨"p", "p1", "d", "d2", .one, .many, none, none, none⟩,
    ⟨"d", "d2", "p", "p1", .many, .many, none, none, none⟩,
    ⟨"d", "d1", "p", "p1", .many, .one, none, none, none⟩,
    ⟨"d", "d2", "r", "r1", .one, .one, none, none, none⟩]

/-- The rooms have it, and the place is still listed before the id, which was claimed later. -/
theorem place_refers_to_room :
    ∃ b classes m key place, diagram.blueprint {} = .ok b ∧ b.modelClasses diagram.tables = .ok classes ∧
      m ∈ classes ∧ m.columns = [key, place] ∧
      place.arguments = ["sa.BigInteger", "sa.ForeignKey(\"rooms.id\")"] ∧
      (∃ e, place.DeclaresKey (some e) ∧ diagram.LastClaim ("d", "d2") e) ∧
      b.foreignKeys.map Prod.fst = ([("d", "d2"), ("d", "d1")] : List (LooseText × LooseText)) := by
  obtain ⟨b, hb⟩ : ∃ b, diagram.blueprint {} = .ok b := ⟨_, rfl⟩
  obtain ⟨classes, hclasses⟩ : ∃ classes, b.modelClasses diagram.tables = .ok classes := by
    obtain rfl := Except.ok.inj hb
    exact ⟨_, rfl⟩
  obtain ⟨hcolumns, _, hholders, _⟩ := Diagram.foreign_key_of_last_claim hb hclasses
  obtain ⟨m, hm, hclass, hall⟩ := hcolumns desks (by decide) rfl
  obtain ⟨key, rest, _, hrest, hkey⟩ := List.forall₂_cons_left_iff.mp hall
  obtain ⟨place, rest, ⟨target, _, hdeclares, hsome, hlast⟩, hnil, rfl⟩ :=
    List.forall₂_cons_left_iff.mp hrest
  obtain rfl := List.forall₂_nil_left_iff.mp hnil
  have hclaimed : ∃ r ∈ diagram.relationships, r.keyHolder? = some (("d", "d2") : LooseText × LooseText) := by
    decide
  obtain ⟨e, rfl⟩ := Option.isSome_iff_exists.mp (hsome.mpr hclaimed)
  refine ⟨b, classes, m, key, place, hb, hclasses, hm, hkey, ?_, ⟨e, hdeclares, hlast e rfl⟩, ?_⟩
  · obtain rfl := Except.ok.inj hb
    obtain rfl := Except.ok.inj hclass
    obtain ⟨_, hplace⟩ := List.cons.inj hkey
    rw [← (List.cons.inj hplace).1]
    decide
  · rw [hholders]
    decide

end Office

end SchemaScribe
