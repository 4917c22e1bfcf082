import SchemaScribe.Proofs.AlikeRelationships

/-!
# What a cascade can change

A module shows a cascade in the collection of a one-to-many relationship and nowhere else, and what it shows
is the policy that the relationship and the options make together. So two runs whose relationships differ in
nothing but cascades have the same outcome if their policies are the same there.
-/

namespace SchemaScribe

namespace Relationship

/-- The relationships are the same but for their cascades. -/
def SameButCascade (r r' : Relationship) : Prop :=
  r' = { r with cascade := r'.cascade }

/-- The cascades may differ, but not the policy of a relationship between one and many. -/
structure SamePolicy (options options' : Options) (r r' : Relationship) : Prop where
  sameButCascade : r.SameButCascade r'
  policy : r.IsOneToMany → r'.policy options' = r.policy options

variable {r r' : Relationship}

theorem samePolicy_of_eq (hsame : r.SameButCascade r') (heq : r.IsOneToMany → r' = r) (options : Options) :
    r.SamePolicy options options r' := by
  refine ⟨hsame, ?_⟩
  intro honeToMany
  rw [heq honeToMany]

theorem samePolicy_of_own (hown : r.IsOneToMany → ∃ cascade, r.cascade = some cascade ∧ cascade ≠ "")
    (options options' : Options) : r.SamePolicy options options' r := by
  refine ⟨rfl, ?_⟩
  intro honeToMany
  obtain ⟨cascade, hcascade, hne⟩ := hown honeToMany
  have hpolicy : ∀ options : Options, r.policy options = cascade := by
    intro options
    have hown : r.cascade ≠ some "" := by
      rw [hcascade]
      simpa using hne
    rw [policy_eq hown, hcascade, Option.getD_some]
  rw [hpolicy, hpolicy]

end Relationship

namespace Diagram

variable {d : Diagram} {options options' : Options} {r r' : Relationship}

theorem alike_ofEndpoints (h : r.IsOneToMany → r'.policy options' = r.policy options) (ordinal : Nat)
    (source target : Endpoint) :
    ClassifiedRelationship.Alike options options'
      (.ofEndpoints r ordinal source target r.sourceCardinality r.targetCardinality)
      (.ofEndpoints r' ordinal source target r.sourceCardinality r.targetCardinality) := by
  cases hsource : r.sourceCardinality <;> cases htarget : r.targetCardinality
  · exact ⟨rfl, rfl, rfl, rfl, nofun⟩
  · exact ⟨rfl, rfl, rfl, rfl, fun _ => h (Or.inl ⟨hsource, htarget⟩)⟩
  · exact ⟨rfl, rfl, rfl, rfl, fun _ => h (Or.inr ⟨hsource, htarget⟩)⟩
  · exact ⟨rfl, rfl, rfl, rfl, nofun⟩

theorem agree_classify_of_samePolicy (h : r.SamePolicy options options' r') (ordinal : Nat) :
    Agree Eq (ClassifiedRelationship.Alike options options') (d.classify r ordinal)
      (d.classify r' ordinal) := by
  have hends : d.endpoints r' = d.endpoints r := by
    rw [h.sameButCascade]
    rfl
  have hsource : r'.sourceCardinality = r.sourceCardinality := by
    rw [h.sameButCascade]
  have htarget : r'.targetCardinality = r.targetCardinality := by
    rw [h.sameButCascade]
  unfold classify
  rw [hends, hsource, htarget]
  cases d.endpoints r with
  | error e => exact .error rfl
  | ok ends =>
      obtain ⟨source, target⟩ := ends
      exact .ok (alike_ofEndpoints h.policy ordinal source target)

theorem modelsModule_of_samePolicy {relationships : List Relationship}
    (h : List.Forall₂ (Relationship.SamePolicy options options') d.relationships relationships) :
    (d.withRelationships relationships).modelsModule options' = d.modelsModule options := by
  have hagree := agree_classifyFrom (d := d)
    (fun _ _ ordinal hpolicy => agree_classify_of_samePolicy hpolicy ordinal) h 0
  rcases modelsModule_withRelationships hagree with hsame | ⟨e, e', heq, hfails, hfails'⟩
  · exact hsame
  · rw [hfails, hfails', heq]

end Diagram

/-- **Cascades.** Two runs on diagrams that differ in cascades only have the same outcome if every relationship
between one and many has the same policy in both, whether the cascade is its own or that of the options. So the
cascades of other relationships do not matter, and that of the options does not if all relationships between
one and many have their own. -/
theorem Diagram.cascade_acts_by_policy (d : Diagram) :
    (∀ options options' relationships,
      List.Forall₂ (Relationship.SamePolicy options options') d.relationships relationships →
        (d.withRelationships relationships).modelsModule options' = d.modelsModule options) ∧
    (∀ options relationships,
      List.Forall₂ (fun r r' => r.SameButCascade r' ∧ (r.IsOneToMany → r' = r)) d.relationships
          relationships →
        (d.withRelationships relationships).modelsModule options = d.modelsModule options) ∧
    ((∀ r ∈ d.relationships, r.IsOneToMany → ∃ cascade, r.cascade = some cascade ∧ cascade ≠ "") →
      ∀ options options', d.modelsModule options' = d.modelsModule options) := by
  refine ⟨fun _ _ _ => modelsModule_of_samePolicy, ?_, ?_⟩
  · intro options relationships h
    apply modelsModule_of_samePolicy
    exact h.imp fun r r' hsame => Relationship.samePolicy_of_eq hsame.1 hsame.2 options
  · intro hown options options'
    have hall : List.Forall₂ (Relationship.SamePolicy options options') d.relationships d.relationships :=
      List.forall₂_same.mpr fun r hr => Relationship.samePolicy_of_own (hown r hr) options options'
    exact modelsModule_of_samePolicy hall

namespace Office

/-- The relationships between one and many have a cascade of their own, and so have two others. -/
def withCascades : List Relationship :=
  [⟨"p", "p1", "d", "d2", .one, .many, none, none, some "save-update"⟩,
    ⟨"d", "d2", "p", "p1", .many, .many, none, none, some "all"⟩,
    ⟨"d", "d1", "p", "p1", .many, .one, none, none, some "save-update"⟩,
    ⟨"d", "d2", "r", "r1", .one, .one, none, none, some "delete"⟩]

/-- Where the options say the same for relationships without cascades, the office has the same module. -/
theorem same_policies_same_module :
    ∃ text, diagram.modelsModule ⟨"save-update"⟩ = .ok text ∧
      (diagram.withRelationships withCascades).modelsModule ⟨"merge"⟩ = .ok text := by
  obtain ⟨text, htext⟩ : ∃ text, diagram.modelsModule ⟨"save-update"⟩ = .ok text := ⟨_, rfl⟩
  have hpolicies : List.Forall₂ (Relationship.SamePolicy ⟨"save-update"⟩ ⟨"merge"⟩) diagram.relationships
      withCascades :=
    .cons ⟨rfl, by decide⟩ (.cons ⟨rfl, by decide⟩ (.cons ⟨rfl, by decide⟩ (.cons ⟨rfl, by decide⟩ .nil)))
  refine ⟨text, htext, ?_⟩
  rw [← htext]
  exact (Diagram.cascade_acts_by_policy diagram).1 _ _ _ hpolicies

end Office

end SchemaScribe
