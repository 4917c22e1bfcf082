import SchemaScribe.Blueprint
import SchemaScribe.Proofs.Lists

/-!
# What classification finds

A classified relationship stands at its place in the diagram, and its ends are fields of the diagram's
tables. Both follow from one inversion lemma for each step of the classification; the lists come by
induction over the relationships.
-/

namespace SchemaScribe

/-- The end is in the diagram under its own ids: it is what a look-up by them finds. -/
structure Endpoint.FoundIn (e : Endpoint) (d : Diagram) : Prop where
  table : d.table? e.table.id = some e.table
  field : e.table.field? e.field.id = some e.field

/-- Ends in tables with one id are in one table. -/
theorem Endpoint.FoundIn.table_eq {d : Diagram} {e e' : Endpoint} (h : e.FoundIn d) (h' : e'.FoundIn d)
    (hid : e.table.id = e'.table.id) : e.table = e'.table := by
  have hfound := h.table
  rw [hid, h'.table] at hfound
  exact (Option.some.inj hfound).symm

namespace Diagram

variable {d : Diagram}

theorem id_of_table?_eq_some {id : LooseText} {t : Table} (h : d.table? id = some t) : t.id = id := by
  simpa using List.find?_some h

theorem mem_of_table?_eq_some {id : LooseText} {t : Table} (h : d.table? id = some t) : t ∈ d.tables :=
  List.mem_of_find?_eq_some h

theorem endpoint_eq_ok_iff {relationshipId : Option String} {tableId fieldId : LooseText} {e : Endpoint} :
    d.endpoint relationshipId tableId fieldId = .ok e ↔
      d.table? tableId = some e.table ∧ e.table.field? fieldId = some e.field := by
  unfold endpoint
  cases htable : d.table? tableId with
  | none => simp
  | some t =>
      simp only [Option.some.injEq]
      cases hfield : t.field? fieldId with
      | none =>
          simp only [reduceCtorEq, false_iff, not_and]
          intro ht
          rw [← ht, hfield]
          exact Option.some_ne_none _ ∘ Eq.symm
      | some f =>
          simp only [Except.ok.injEq]
          constructor
          · intro he
            subst he
            exact ⟨rfl, hfield⟩
          · rintro ⟨ht, hf⟩
            subst ht
            rw [hfield] at hf
            obtain rfl := Option.some.inj hf
            rfl

theorem foundIn_of_endpoint_eq_ok {relationshipId : Option String} {tableId fieldId : LooseText}
    {e : Endpoint} (h : d.endpoint relationshipId tableId fieldId = .ok e) :
    e.FoundIn d ∧ e.table.id = tableId ∧ e.field.id = fieldId := by
  obtain ⟨htable, hfield⟩ := endpoint_eq_ok_iff.mp h
  have htableId : e.table.id = tableId := id_of_table?_eq_some htable
  have hfieldId : e.field.id = fieldId := by
    simpa using List.find?_some hfield
  refine ⟨⟨?_, ?_⟩, htableId, hfieldId⟩
  · rw [htableId, htable]
  · rw [hfieldId, hfield]

theorem endpoints_eq_ok_iff {r : Relationship} {source target : Endpoint} :
    d.endpoints r = .ok (source, target) ↔
      d.endpoint r.id r.sourceTableId r.sourceFieldId = .ok source ∧
        d.endpoint r.id r.targetTableId r.targetFieldId = .ok target := by
  unfold endpoints
  cases hsource : d.endpoint r.id r.sourceTableId r.sourceFieldId with
  | error e => simp
  | ok s =>
      cases htarget : d.endpoint r.id r.targetTableId r.targetFieldId with
      | error e => simp
      | ok t => simp

theorem classify_eq_ok_iff {r : Relationship} {ordinal : Nat} {c : ClassifiedRelationship} :
    d.classify r ordinal = .ok c ↔
      ∃ source target, d.endpoints r = .ok (source, target) ∧
        c = .ofEndpoints r ordinal source target r.sourceCardinality r.targetCardinality := by
  unfold classify
  cases hends : d.endpoints r with
  | error e => simp
  | ok ends =>
      obtain ⟨source, target⟩ := ends
      simp only [Except.ok.injEq, Prod.mk.injEq, and_assoc]
      constructor
      · intro hc
        exact ⟨source, target, rfl, rfl, hc.symm⟩
      · rintro ⟨s, t, rfl, rfl, hc⟩
        exact hc.symm

/-! ### One relationship -/

section Classify

variable {r : Relationship} {ordinal : Nat} {c : ClassifiedRelationship}

theorem ordinal_of_classify_eq_ok (h : d.classify r ordinal = .ok c) : c.ordinal = ordinal := by
  obtain ⟨source, target, _, rfl⟩ := classify_eq_ok_iff.mp h
  unfold ClassifiedRelationship.ofEndpoints
  cases r.sourceCardinality <;> cases r.targetCardinality <;> rfl

theorem foundIn_of_classify_eq_ok (h : d.classify r ordinal = .ok c) :
    c.first.FoundIn d ∧ c.second.FoundIn d := by
  obtain ⟨source, target, hends, rfl⟩ := classify_eq_ok_iff.mp h
  obtain ⟨hsource, htarget⟩ := endpoints_eq_ok_iff.mp hends
  have hs := (foundIn_of_endpoint_eq_ok hsource).1
  have ht := (foundIn_of_endpoint_eq_ok htarget).1
  unfold ClassifiedRelationship.ofEndpoints
  cases r.sourceCardinality <;> cases r.targetCardinality
  · exact ⟨hs, ht⟩
  · exact ⟨hs, ht⟩
  · exact ⟨ht, hs⟩
  · exact ⟨hs, ht⟩

end Classify

/-! ### All relationships -/

theorem classifyFrom_cons_eq_ok_iff {ordinal : Nat} {r : Relationship} {rs : List Relationship}
    {cs : List ClassifiedRelationship} :
    d.classifyFrom ordinal (r :: rs) = .ok cs ↔
      ∃ c rest, d.classify r ordinal = .ok c ∧ d.classifyFrom (ordinal + 1) rs = .ok rest ∧
        cs = c :: rest := by
  rw [classifyFrom]
  cases hc : d.classify r ordinal with
  | error e => simp
  | ok c =>
      cases hrest : d.classifyFrom (ordinal + 1) rs with
      | error e => simp
      | ok rest =>
          simp only [Except.ok.injEq]
          constructor
          · intro h
            exact ⟨c, rest, rfl, rfl, h.symm⟩
          · rintro ⟨_, _, rfl, rfl, h⟩
            exact h.symm

theorem forall₂_of_classifyFrom {ordinal : Nat} {rs : List Relationship}
    {cs : List ClassifiedRelationship} (h : d.classifyFrom ordinal rs = .ok cs) :
    List.Forall₂ (fun r c => ∃ i, d.classify r i = .ok c) rs cs := by
  induction rs generalizing ordinal cs with
  | nil =>
      obtain rfl := Except.ok.inj h
      exact .nil
  | cons r rs ih =>
      obtain ⟨c, rest, hc, hrest, rfl⟩ := classifyFrom_cons_eq_ok_iff.mp h
      exact .cons ⟨ordinal, hc⟩ (ih hrest)

theorem getElem?_of_classifyFrom_eq_ok {ordinal : Nat} {rs : List Relationship}
    {cs : List ClassifiedRelationship} (h : d.classifyFrom ordinal rs = .ok cs) {i : Nat}
    {c : ClassifiedRelationship} (hc : cs[i]? = some c) :
    ∃ r, rs[i]? = some r ∧ d.classify r (ordinal + i) = .ok c := by
  induction rs generalizing ordinal cs i with
  | nil =>
      obtain rfl := Except.ok.inj h
      simp at hc
  | cons r rs ih =>
      obtain ⟨head, rest, hhead, hrest, rfl⟩ := classifyFrom_cons_eq_ok_iff.mp h
      cases i with
      | zero =>
          obtain rfl : head = c := by simpa using hc
          exact ⟨r, rfl, hhead⟩
      | succ i =>
          obtain ⟨r', hr', hclassify⟩ := ih hrest (by simpa using hc)
          refine ⟨r', by simpa using hr', ?_⟩
          rwa [show ordinal + (i + 1) = ordinal + 1 + i by omega]

variable {rs : List ClassifiedRelationship}

theorem ordinal_of_getElem?_classifyAll (h : d.classifyAll = .ok rs) {i : Nat}
    {c : ClassifiedRelationship} (hc : rs[i]? = some c) : c.ordinal = i := by
  obtain ⟨r, _, hclassify⟩ := getElem?_of_classifyFrom_eq_ok h hc
  rw [ordinal_of_classify_eq_ok hclassify, Nat.zero_add]

/-- Ordinals grow along the list, so no two relationships share one. -/
theorem pairwise_ordinal_of_classifyAll (h : d.classifyAll = .ok rs) :
    rs.Pairwise fun r s => r.ordinal < s.ordinal := by
  rw [List.pairwise_iff_getElem]
  intro i j hi hj hlt
  rw [ordinal_of_getElem?_classifyAll h (List.getElem?_eq_getElem hi),
    ordinal_of_getElem?_classifyAll h (List.getElem?_eq_getElem hj)]
  exact hlt

theorem eq_of_ordinal_eq (h : d.classifyAll = .ok rs) {c c' : ClassifiedRelationship} (hc : c ∈ rs)
    (hc' : c' ∈ rs) (hordinal : c.ordinal = c'.ordinal) : c = c' := by
  obtain ⟨i, hi⟩ := List.mem_iff_getElem?.mp hc
  obtain ⟨j, hj⟩ := List.mem_iff_getElem?.mp hc'
  rw [ordinal_of_getElem?_classifyAll h hi, ordinal_of_getElem?_classifyAll h hj] at hordinal
  subst hordinal
  exact Option.some.inj (hi.symm.trans hj)

theorem foundIn_of_mem_classifyAll (h : d.classifyAll = .ok rs) {c : ClassifiedRelationship}
    (hc : c ∈ rs) : c.first.FoundIn d ∧ c.second.FoundIn d := by
  obtain ⟨i, hi⟩ := List.mem_iff_getElem?.mp hc
  obtain ⟨r, _, hclassify⟩ := getElem?_of_classifyFrom_eq_ok h hi
  exact foundIn_of_classify_eq_ok hclassify

/-! ### The blueprint -/

theorem blueprint_eq_ok_iff {options : Options} {b : Blueprint} :
    d.blueprint options = .ok b ↔
      ∃ rs, d.classifyAll = .ok rs ∧ b = Blueprint.ofRelationships d options rs := by
  unfold blueprint
  cases h : d.classifyAll with
  | error e => simp [Except.map]
  | ok rs =>
      simp only [Except.map, Except.ok.injEq]
      constructor
      · intro hb
        exact ⟨rs, rfl, hb.symm⟩
      · rintro ⟨_, rfl, hb⟩
        exact hb.symm

theorem types_of_blueprint {options : Options} {b : Blueprint} (hb : d.blueprint options = .ok b) :
    b.types = .ofDiagram d := by
  obtain ⟨_, _, rfl⟩ := blueprint_eq_ok_iff.mp hb
  rfl

theorem exists_classified {options : Options} {b : Blueprint} (hb : d.blueprint options = .ok b)
    {r : Relationship} (hr : r ∈ d.relationships) :
    ∃ c ∈ b.relationships, ∃ ordinal, d.classify r ordinal = .ok c := by
  obtain ⟨rs, hrs, rfl⟩ := blueprint_eq_ok_iff.mp hb
  exact exists_of_forall₂ (forall₂_of_classifyFrom hrs) hr

theorem foundIn_of_mem_relationships {options : Options} {b : Blueprint}
    (hb : d.blueprint options = .ok b) {r : ClassifiedRelationship} (hr : r ∈ b.relationships) :
    r.first.FoundIn d ∧ r.second.FoundIn d := by
  obtain ⟨rs, hrs, rfl⟩ := blueprint_eq_ok_iff.mp hb
  exact foundIn_of_mem_classifyAll hrs hr

end Diagram

/-! ### A diagram to try statements on

Two tables share an id, and the tables of the first many-to-many relationship are joined once more in the
same order, once the other way round, and one of them with itself. -/

namespace Blog

def tagId : Field := { id := "t1", name := "tag_id", type := ⟨"bigint", none⟩, primaryKey := true }

def postId : Field := { id := "p1", name := "post_id", type := ⟨"bigint", none⟩, primaryKey := true }

def leadTag : Field := { id := "p2", name := "lead tag", type := ⟨"bigint", none⟩ }

def tags : Table := { id := "t", name := "tags", fields := [tagId] }

def labels : Table := { id := "t", name := "labels", fields := [tagId] }

def posts : Table := { id := "p", name := "post", schema := some "blog", fields := [postId, leadTag] }

def relationship (source target : Table × Field) (ends : Cardinality × Cardinality) : Relationship where
  sourceTableId := source.1.id
  sourceFieldId := source.2.id
  targetTableId := target.1.id
  targetFieldId := target.2.id
  sourceCardinality := ends.1
  targetCardinality := ends.2

def diagram : Diagram where
  databaseType := .postgresql
  tables := [tags, posts, labels]
  relationships := [
    relationship (tags, tagId) (posts, leadTag) (.one, .many),
    relationship (tags, tagId) (posts, postId) (.many, .many),
    relationship (posts, postId) (tags, tagId) (.many, .many),
    relationship (tags, tagId) (posts, postId) (.many, .many),
    relationship (posts, postId) (posts, postId) (.many, .many)]

def leading : ClassifiedRelationship :=
  ⟨.oneToMany, ⟨tags, tagId⟩, ⟨posts, leadTag⟩,
    relationship (tags, tagId) (posts, leadTag) (.one, .many), 0⟩

/-- The many-to-many relationship at a place, between two fields. -/
def joining (first second : Table × Field) (ordinal : Nat) : ClassifiedRelationship :=
  ⟨.manyToMany, ⟨first.1, first.2⟩, ⟨second.1, second.2⟩, relationship first second (.many, .many),
    ordinal⟩

def blueprint : Blueprint :=
  .ofRelationships diagram {} [leading, joining (tags, tagId) (posts, postId) 1,
    joining (posts, postId) (tags, tagId) 2, joining (tags, tagId) (posts, postId) 3,
    joining (posts, postId) (posts, postId) 4]

theorem blueprint_eq : diagram.blueprint {} = .ok blueprint := rfl

end Blog

end SchemaScribe
