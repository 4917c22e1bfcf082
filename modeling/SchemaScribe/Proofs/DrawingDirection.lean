import SchemaScribe.Proofs.AlikeRelationships

/-!
# The direction in which a relationship is drawn

A relationship between one and many can be drawn from either end. Classification puts the "one" side first in
both cases, and nothing behind it looks at the declared ends again. So the module is the same. Only if both
ends are missing may another of them be reported.
-/

namespace SchemaScribe

namespace Relationship

/-- The relationship drawn from its other end. -/
def reversed (r : Relationship) : Relationship :=
  { r with
    sourceTableId := r.targetTableId
    sourceFieldId := r.targetFieldId
    targetTableId := r.sourceTableId
    targetFieldId := r.sourceFieldId
    sourceCardinality := r.targetCardinality
    targetCardinality := r.sourceCardinality }

/-- The same relationship, or one between one and many drawn the other way. -/
def DrawnEitherWay (r r' : Relationship) : Prop :=
  r' = r ∨ (r.IsOneToMany ∧ r' = r.reversed)

end Relationship

theorem ClassifiedRelationship.Alike.refl (options : Options) (c : ClassifiedRelationship) :
    c.Alike options options c :=
  ⟨rfl, rfl, rfl, rfl, fun _ => rfl⟩

namespace ClassifiedRelationship

variable {r : Relationship}

/-- With the ends in the other order and the cardinalities exchanged, the same side comes first. -/
theorem alike_ofEndpoints_reversed (h : r.IsOneToMany) (options : Options) (ordinal : Nat)
    (source target : Endpoint) :
    Alike options options (ofEndpoints r ordinal source target r.sourceCardinality r.targetCardinality)
      (ofEndpoints r.reversed ordinal target source r.targetCardinality r.sourceCardinality) := by
  rcases h with ⟨hsource, htarget⟩ | ⟨hsource, htarget⟩
  · rw [hsource, htarget]
    exact ⟨rfl, rfl, rfl, rfl, fun _ => rfl⟩
  · rw [hsource, htarget]
    exact ⟨rfl, rfl, rfl, rfl, fun _ => rfl⟩

end ClassifiedRelationship

namespace Diagram

variable {d : Diagram} {r r' : Relationship}

theorem endpoints_reversed_eq_ok_iff {source target : Endpoint} :
    d.endpoints r.reversed = .ok (target, source) ↔ d.endpoints r = .ok (source, target) := by
  rw [endpoints_eq_ok_iff, endpoints_eq_ok_iff]
  exact and_comm

theorem agree_classify_reversed (h : r.IsOneToMany) (options : Options) (ordinal : Nat) :
    Agree (fun _ _ => True) (ClassifiedRelationship.Alike options options)
      (d.classify r ordinal) (d.classify r.reversed ordinal) := by
  cases hends : d.endpoints r with
  | ok ends =>
      obtain ⟨source, target⟩ := ends
      have hclassify : d.classify r ordinal =
          .ok (.ofEndpoints r ordinal source target r.sourceCardinality r.targetCardinality) :=
        classify_eq_ok_iff.mpr ⟨source, target, hends, rfl⟩
      have hreversed : d.classify r.reversed ordinal =
          .ok (.ofEndpoints r.reversed ordinal target source r.targetCardinality r.sourceCardinality) :=
        classify_eq_ok_iff.mpr ⟨target, source, endpoints_reversed_eq_ok_iff.mpr hends, rfl⟩
      rw [hclassify, hreversed]
      exact .ok (ClassifiedRelationship.alike_ofEndpoints_reversed h options ordinal source target)
  | error e =>
      cases hreversed : d.endpoints r.reversed with
      | ok ends =>
          rw [endpoints_reversed_eq_ok_iff.mp hreversed] at hends
          cases hends
      | error e' =>
          unfold classify
          rw [hends, hreversed]
          exact .error trivial

theorem agree_classify_of_drawnEitherWay (h : r.DrawnEitherWay r') (options : Options) (ordinal : Nat) :
    Agree (fun _ _ => True) (ClassifiedRelationship.Alike options options)
      (d.classify r ordinal) (d.classify r' ordinal) := by
  rcases h with rfl | ⟨honeToMany, rfl⟩
  · cases d.classify r' ordinal with
    | ok c => exact .ok (.refl options c)
    | error e => exact .error trivial
  · exact agree_classify_reversed honeToMany options ordinal

end Diagram

/-- **Drawing direction.** If some of the relationships between one and many are drawn the other way, the
module is the same text, and it is generated for the one diagram exactly if it is for the other. Even failures
are the same, except that another missing reference may be reported. -/
theorem Diagram.drawing_direction_irrelevant {d : Diagram} {relationships : List Relationship}
    (h : List.Forall₂ Relationship.DrawnEitherWay d.relationships relationships) (options : Options) :
    (∀ text, (d.withRelationships relationships).modelsModule options = .ok text ↔
      d.modelsModule options = .ok text) ∧
    ((d.withRelationships relationships).modelsModule options = d.modelsModule options ∨
      ∃ e e', d.modelsModule options = .error (.dangling e) ∧
        (d.withRelationships relationships).modelsModule options = .error (.dangling e')) := by
  have hagree := agree_classifyFrom (d := d)
    (fun _ _ ordinal hdrawn => agree_classify_of_drawnEitherWay hdrawn options ordinal) h 0
  rcases modelsModule_withRelationships hagree with hsame | ⟨e, e', _, hfails, hfails'⟩
  · refine ⟨fun text => ?_, Or.inl hsame⟩
    rw [hsame]
  · refine ⟨fun text => ?_, Or.inr ⟨e, e', hfails, hfails'⟩⟩
    simp only [hfails, hfails', reduceCtorEq]

namespace Office

/-- The first relationship of the office goes from one to many, and the third from many to one. -/
def redrawn : List Relationship :=
  [⟨"d", "d2", "p", "p1", .many, .one, none, none, none⟩,
    ⟨"d", "d2", "p", "p1", .many, .many, none, none, none⟩,
    ⟨"p", "p1", "d", "d1", .one, .many, none, none, none⟩,
    ⟨"d", "d2", "r", "r1", .one, .one, none, none, none⟩]

theorem redrawn_same_module :
    ∃ text, diagram.modelsModule {} = .ok text ∧
      (diagram.withRelationships redrawn).modelsModule {} = .ok text := by
  obtain ⟨text, htext⟩ : ∃ text, diagram.modelsModule {} = .ok text := ⟨_, rfl⟩
  have hredrawn : List.Forall₂ Relationship.DrawnEitherWay diagram.relationships redrawn :=
    .cons (Or.inr ⟨by decide, rfl⟩) (.cons (Or.inl rfl) (.cons (Or.inr ⟨by decide, rfl⟩)
      (.cons (Or.inl rfl) .nil)))
  exact ⟨text, htext, ((Diagram.drawing_direction_irrelevant hredrawn {}).1 text).mpr htext⟩

end Office

end SchemaScribe
