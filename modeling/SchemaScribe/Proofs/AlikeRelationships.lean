import SchemaScribe.Proofs.KeyHolders
import SchemaScribe.Proofs.RelationshipLine
import SchemaScribe.Proofs.TableIndependence

/-!
# Relationships that a module does not tell apart

Once it is classified, a relationship counts by its kind, its ends and its place, and by its cascade policy if
it is one-to-many. Where these are the same, so are foreign keys, association tables and lines, and hence the
classes. So it is enough to compare two diagrams relationship by relationship, as far as classification.
-/

namespace SchemaScribe

/-- Both have a result, or both have failed. -/
inductive Agree {ε α β : Type} (P : ε → ε → Prop) (R : α → β → Prop) : Except ε α → Except ε β → Prop
  | ok {a : α} {b : β} (h : R a b) : Agree P R (.ok a) (.ok b)
  | error {e e' : ε} (h : P e e') : Agree P R (.error e) (.error e')

namespace Relationship

/-- One end is one, the other many. -/
def IsOneToMany (r : Relationship) : Prop :=
  (r.sourceCardinality = .one ∧ r.targetCardinality = .many) ∨
    (r.sourceCardinality = .many ∧ r.targetCardinality = .one)

instance (r : Relationship) : Decidable r.IsOneToMany :=
  inferInstanceAs (Decidable (_ ∨ _))

/-- The cascade policy of a relationship: its own if it names one, else that of the options. -/
def policy (r : Relationship) (options : Options) : String :=
  (nonEmpty r.cascade).getD options.cascade

theorem policy_eq {r : Relationship} (hr : r.cascade ≠ some "") (options : Options) :
    r.policy options = r.cascade.getD options.cascade := by
  unfold policy
  cases hown : r.cascade with
  | none => rfl
  | some own =>
      have hne : own ≠ "" := by
        rintro rfl
        exact hr hown
      rw [nonEmpty, Option.filter_some_pos (by simpa using hne)]

end Relationship

def Diagram.withRelationships (d : Diagram) (relationships : List Relationship) : Diagram :=
  { d with relationships := relationships }

/-- What a module shows of one relationship under its options is what it shows of the other. -/
structure ClassifiedRelationship.Alike (options options' : Options) (c c' : ClassifiedRelationship) :
    Prop where
  kind : c'.kind = c.kind
  first : c'.first = c.first
  second : c'.second = c.second
  ordinal : c'.ordinal = c.ordinal
  policy : c.kind = .oneToMany → c'.relationship.policy options' = c.relationship.policy options

/-! ### Classification -/

namespace Diagram

variable {d : Diagram} {options options' : Options} {P : DanglingReference → DanglingReference → Prop}

theorem classifyAll_withRelationships (d : Diagram) (relationships : List Relationship) :
    (d.withRelationships relationships).classifyAll = d.classifyFrom 0 relationships := by
  have htable : ∀ id, (d.withRelationships relationships).table? id = d.table? id := fun _ => rfl
  exact classifyFrom_congr (fun _ _ id _ => htable id) 0

/-- If relationships are alike one by one, wherever they stand, then so are all of them. -/
theorem agree_classifyFrom {Q : Relationship → Relationship → Prop}
    (hclassify : ∀ r r' ordinal, Q r r' → Agree P (ClassifiedRelationship.Alike options options')
      (d.classify r ordinal) (d.classify r' ordinal))
    {rs rs' : List Relationship} (h : List.Forall₂ Q rs rs') (ordinal : Nat) :
    Agree P (List.Forall₂ (ClassifiedRelationship.Alike options options'))
      (d.classifyFrom ordinal rs) (d.classifyFrom ordinal rs') := by
  induction h generalizing ordinal with
  | nil => exact .ok .nil
  | @cons r r' rs rs' hhead _ ih =>
      have hfirst := hclassify r r' ordinal hhead
      have hrest := ih (ordinal + 1)
      rw [classifyFrom, classifyFrom]
      generalize d.classify r ordinal = first at hfirst
      generalize d.classify r' ordinal = first' at hfirst
      generalize d.classifyFrom (ordinal + 1) rs = rest at hrest
      generalize d.classifyFrom (ordinal + 1) rs' = rest' at hrest
      cases hfirst with
      | error herror => exact .error herror
      | ok halike =>
          cases hrest with
          | error herror => exact .error herror
          | ok hall => exact .ok (.cons halike hall)

end Diagram

/-! ### Foreign keys, association tables and lines -/

namespace ClassifiedRelationship.Alike

variable {options options' : Options} {c c' : ClassifiedRelationship}

theorem foreignKey? (h : Alike options options' c c') : c'.foreignKey? = c.foreignKey? := by
  simp only [ClassifiedRelationship.foreignKey?, h.kind, h.first, h.second]

theorem ofRelationship? (h : Alike options options' c c') (db : DatabaseType) :
    AssociationTable.ofRelationship? db c' = AssociationTable.ofRelationship? db c := by
  simp only [AssociationTable.ofRelationship?, h.kind, h.first, h.second, h.ordinal]

theorem side? (h : Alike options options' c c') (t : Table) : c'.side? t = c.side? t := by
  simp only [ClassifiedRelationship.side?, h.first, h.second]

end ClassifiedRelationship.Alike

section Alike

variable {options options' : Options} {cs cs' : List ClassifiedRelationship}

theorem ForeignKeys.ofRelationships_of_alike
    (h : List.Forall₂ (ClassifiedRelationship.Alike options options') cs cs') :
    ofRelationships cs' = ofRelationships cs := by
  unfold ofRelationships
  rw [claims_eq, claims_eq]
  congr 1
  apply filterMap_eq_of_forall₂ h.flip
  intro c' c halike
  rw [ClassifiedRelationship.claim?, ClassifiedRelationship.claim?, halike.foreignKey?]

theorem AssociationTable.ofRelationships_of_alike
    (h : List.Forall₂ (ClassifiedRelationship.Alike options options') cs cs') (db : DatabaseType) :
    ofRelationships db cs' = ofRelationships db cs :=
  filterMap_eq_of_forall₂ h.flip fun _ _ halike => halike.ofRelationship? db

namespace Blueprint

variable {d : Diagram} {relationships : List Relationship}

theorem associationFor?_of_alike
    (h : List.Forall₂ (ClassifiedRelationship.Alike options options') cs cs')
    {c c' : ClassifiedRelationship} (halike : c.Alike options options' c') :
    (ofRelationships (d.withRelationships relationships) options' cs').associationFor? c' =
      (ofRelationships d options cs).associationFor? c := by
  have hpair : c'.tablePair = c.tablePair := by
    rw [ClassifiedRelationship.tablePair, ClassifiedRelationship.tablePair, halike.first, halike.second]
  unfold associationFor? ofRelationships
  rw [hpair, AssociationTable.ofRelationships_of_alike h]
  rfl

theorem relationshipLine?_of_alike
    (h : List.Forall₂ (ClassifiedRelationship.Alike options options') cs cs')
    {c c' : ClassifiedRelationship} (halike : c.Alike options options' c') (t : Table) :
    (ofRelationships (d.withRelationships relationships) options' cs').relationshipLine? t c' =
      (ofRelationships d options cs).relationshipLine? t c := by
  have hcascade : c.kind = .oneToMany →
      (ofRelationships (d.withRelationships relationships) options' cs').cascadeFor c' =
        (ofRelationships d options cs).cascadeFor c := halike.policy
  unfold relationshipLine?
  rw [halike.side?]
  congr 1
  funext side
  exact congrArg RelationshipAttribute.render (relationshipAttribute_congr halike.kind halike.first
    halike.second hcascade (fun _ => associationFor?_of_alike h halike) side)

theorem relationshipLines_of_alike
    (h : List.Forall₂ (ClassifiedRelationship.Alike options options') cs cs') (t : Table) :
    (ofRelationships (d.withRelationships relationships) options' cs').relationshipLines t =
      (ofRelationships d options cs).relationshipLines t := by
  rw [relationshipLines_eq, relationshipLines_eq]
  congr 1
  apply filterMap_eq_of_forall₂ h.flip
  intro c' c halike
  exact relationshipLine?_of_alike h halike t

theorem modelClass_of_alike
    (h : List.Forall₂ (ClassifiedRelationship.Alike options options') cs cs') (t : Table) :
    (ofRelationships (d.withRelationships relationships) options' cs').modelClass t =
      (ofRelationships d options cs).modelClass t := by
  have hkeys : (ofRelationships (d.withRelationships relationships) options' cs').foreignKeys =
      (ofRelationships d options cs).foreignKeys := ForeignKeys.ofRelationships_of_alike h
  have hcolumns : (ofRelationships (d.withRelationships relationships) options' cs').columns t =
      (ofRelationships d options cs).columns t := by
    unfold columns
    rw [hkeys]
    rfl
  unfold modelClass
  rw [hcolumns, relationshipLines_of_alike h]
  rfl

end Blueprint

end Alike

/-- Diagrams whose classified relationships are alike have the same module, or fail in the same way. -/
theorem Diagram.modelsModule_withRelationships {d : Diagram} {options options' : Options}
    {relationships : List Relationship} {P : DanglingReference → DanglingReference → Prop}
    (h : Agree P (List.Forall₂ (ClassifiedRelationship.Alike options options'))
      (d.classifyFrom 0 d.relationships) (d.classifyFrom 0 relationships)) :
    (d.withRelationships relationships).modelsModule options' = d.modelsModule options ∨
      ∃ e e', P e e' ∧ d.modelsModule options = .error (.dangling e) ∧
        (d.withRelationships relationships).modelsModule options' = .error (.dangling e') := by
  have htables : (d.withRelationships relationships).tables = d.tables := rfl
  unfold modelsModule
  rw [htables]
  by_cases hempty : d.tables.isEmpty = true
  · left
    rw [if_pos hempty, if_pos hempty]
  rw [if_neg hempty, if_neg hempty]
  unfold blueprint
  rw [classifyAll_withRelationships, classifyAll]
  generalize d.classifyFrom 0 d.relationships = outcome at h
  generalize d.classifyFrom 0 relationships = outcome' at h
  cases h with
  | error hdangling => exact Or.inr ⟨_, _, hdangling, rfl, rfl⟩
  | @ok cs cs' hall =>
      left
      have hclasses : (Blueprint.ofRelationships (d.withRelationships relationships) options' cs').modelClass =
          (Blueprint.ofRelationships d options cs).modelClass := by
        funext t
        exact Blueprint.modelClass_of_alike hall t
      have hassociations :
          (Blueprint.ofRelationships (d.withRelationships relationships) options' cs').associations =
            (Blueprint.ofRelationships d options cs).associations :=
        AssociationTable.ofRelationships_of_alike hall d.databaseType
      simp only [Except.map, Blueprint.modelClasses, hclasses, hassociations]

end SchemaScribe
