import SchemaScribe.Proofs.AssociationIndex
import SchemaScribe.Proofs.ModelClass

/-!
# The lines at the two ends of a relationship

The two lines of a relationship are rendered apart, one for each end. What ties them together is that
either side names the attribute of the other by the same rule: the name that leads back to an end is the
name that the other end declares.
-/

namespace SchemaScribe

open Source

namespace RelationshipAttribute

/-- The values that an attribute gives for a keyword, in the order of its keywords. -/
def valuesOf (a : RelationshipAttribute) (keyword : String) : List String :=
  (a.keywords.filter (·.name = keyword)).map (·.value)

/-- The type of the values of an attribute, as it is written. -/
def typeText (a : RelationshipAttribute) : String :=
  if a.isCollection then s!"list[{a.targetClass}]" else a.targetClass

/-- The line in front of its keywords: the name, the type, and the class that the attribute is directed at. -/
def opening (a : RelationshipAttribute) : String :=
  indent ++ a.name ++ ": Mapped[" ++ a.typeText ++ "] = relationship(" ++ literal a.targetClass

theorem render_eq (a : RelationshipAttribute) :
    a.render = a.opening ++ String.join (a.keywords.map fun k => ", " ++ k.render) ++ ")" := by
  have hopen : "] = relationship(" = "] = " ++ "relationship(" := by decide
  have hline : a.render = indent ++ a.name ++ ": Mapped[" ++ a.typeText ++ "] = " ++
      call "relationship" [literal a.targetClass] a.keywords := rfl
  have hcall : call "relationship" [literal a.targetClass] a.keywords =
      "relationship(" ++ (literal a.targetClass ++
        String.join (a.keywords.map fun k => ", " ++ k.render) ++ ")") := by
    rw [call, List.singleton_append, intercalate_cons, List.map_map]
    simp only [String.append_assoc]
    rfl
  rw [hline, hcall, opening, hopen]
  simp only [String.append_assoc]

theorem exists_render_eq_opening_append {a : RelationshipAttribute} {keyword value : String}
    (h : value ∈ a.valuesOf keyword) :
    ∃ front back, a.render = a.opening ++ front ++ ", " ++ keyword ++ "=" ++ value ++ back := by
  obtain ⟨k, hk, rfl⟩ := List.mem_map.mp h
  obtain ⟨hmem, hname⟩ := List.mem_filter.mp hk
  obtain rfl : k.name = keyword := by simpa using hname
  obtain ⟨earlier, later, hkeywords⟩ := List.append_of_mem hmem
  have hkeyword : k.render = k.name ++ "=" ++ k.value := rfl
  refine ⟨String.join (earlier.map fun k => ", " ++ k.render),
    String.join (later.map fun k => ", " ++ k.render) ++ ")", ?_⟩
  rw [render_eq, hkeywords, List.map_append, List.map_cons, String.join_append, String.join_cons, hkeyword]
  simp only [String.append_assoc]

theorem exists_render_eq_of_mem_valuesOf {a : RelationshipAttribute} {keyword value : String}
    (h : value ∈ a.valuesOf keyword) :
    ∃ front back, a.render = front ++ keyword ++ "=" ++ value ++ back := by
  obtain ⟨front, back, htext⟩ := exists_render_eq_opening_append h
  exact ⟨a.opening ++ front ++ ", ", back, htext⟩

theorem exists_render_eq_targetClass (a : RelationshipAttribute) :
    ∃ front back, a.render =
      front ++ ": Mapped[" ++ a.typeText ++ "] = relationship(" ++ literal a.targetClass ++ back := by
  refine ⟨indent ++ a.name, String.join (a.keywords.map fun k => ", " ++ k.render) ++ ")", ?_⟩
  rw [render_eq, opening, String.append_assoc]

theorem typeText_eq (a : RelationshipAttribute) :
    a.typeText = a.targetClass ∨ a.typeText = "list[" ++ a.targetClass ++ "]" := by
  unfold typeText
  cases a.isCollection with
  | false => exact Or.inl rfl
  | true => exact Or.inr rfl

end RelationshipAttribute

namespace ClassifiedRelationship

variable {r : ClassifiedRelationship} {t : Table}

theorem near_other (r : ClassifiedRelationship) (side : Side) : r.near side.other = r.far side := by
  cases side <;> rfl

theorem far_other (r : ClassifiedRelationship) (side : Side) : r.far side.other = r.near side := by
  cases side <;> rfl

/-- The name that leads back to an end is the one that the other end declares. -/
theorem backName_eq (r : ClassifiedRelationship) (side : Side) :
    r.backName side = r.attributeName side.other := by
  unfold backName attributeName
  rw [far_other]

theorem isSome_side?_iff : (r.side? t).isSome ↔ r.touches t = true := by
  unfold side? touches
  by_cases hfirst : r.first.table.id = t.id
  · simp [hfirst]
  · by_cases hsecond : r.second.table.id = t.id
    · simp [hfirst, hsecond]
    · simp [hfirst, hsecond]

theorem side?_near (hne : r.first.table.id ≠ r.second.table.id) (side : Side) :
    r.side? (r.near side) = some side := by
  unfold side?
  cases side with
  | first => exact if_pos rfl
  | second =>
      have hsecond : r.first.table.id ≠ (r.near .second).id := hne
      rw [if_neg hsecond]
      exact if_pos rfl

end ClassifiedRelationship

namespace Blueprint

variable {b : Blueprint} {r : ClassifiedRelationship} {t : Table}

/-- Every attribute leads back by the name that the other end declares, and by no other. -/
theorem valuesOf_backPopulates (b : Blueprint) (r : ClassifiedRelationship) (side : Side) :
    (b.relationshipAttribute r side).valuesOf "back_populates" =
      [literal (b.relationshipAttribute r side.other).name] := by
  have hname : (b.relationshipAttribute r side.other).name = r.backName side :=
    (r.backName_eq side).symm
  rw [hname]
  unfold RelationshipAttribute.valuesOf relationshipAttribute relationshipKeywords
  cases r.kind with
  | oneToMany => cases side <;> simp [lazyLoading]
  | oneToOne => simp [lazyLoading]
  | manyToMany =>
      have hsecondary : ((b.associationFor? r).toList.map
          fun a => (⟨"secondary", a.name⟩ : Keyword)).filter (·.name = "back_populates") = [] := by
        rw [List.filter_eq_nil_iff]
        simp
      simp [List.filter_append, hsecondary, lazyLoading]

/-- Only many-to-many relationships name an association table: the one that they find. -/
theorem valuesOf_secondary (b : Blueprint) (r : ClassifiedRelationship) (side : Side) :
    (b.relationshipAttribute r side).valuesOf "secondary" =
      if r.kind = .manyToMany then (b.associationFor? r).toList.map (·.name) else [] := by
  unfold RelationshipAttribute.valuesOf relationshipAttribute relationshipKeywords
  cases r.kind with
  | oneToMany => cases side <;> simp [lazyLoading]
  | oneToOne => simp [lazyLoading]
  | manyToMany => cases b.associationFor? r <;> simp [lazyLoading]

/-- What an attribute says follows from the kind and the ends of its relationship. One-to-many relationships
add a cascade policy, and many-to-many relationships an association table. -/
theorem relationshipAttribute_congr {b b' : Blueprint} {r r' : ClassifiedRelationship}
    (hkind : r'.kind = r.kind) (hfirst : r'.first = r.first) (hsecond : r'.second = r.second)
    (hcascade : r.kind = .oneToMany → b'.cascadeFor r' = b.cascadeFor r)
    (hassociation : r.kind = .manyToMany → b'.associationFor? r' = b.associationFor? r) (side : Side) :
    b'.relationshipAttribute r' side = b.relationshipAttribute r side := by
  have hfar : r'.far side = r.far side := by
    cases side <;> simp only [ClassifiedRelationship.far, hfirst, hsecond]
  have hnear : r'.near side = r.near side := by
    cases side <;> simp only [ClassifiedRelationship.near, hfirst, hsecond]
  have hsees : ∀ side, r'.seesMany side = r.seesMany side := by
    intro side
    simp only [ClassifiedRelationship.seesMany, hkind]
  have hback : r'.backName side = r.backName side := by
    rw [ClassifiedRelationship.backName, ClassifiedRelationship.backName, hnear, hsees]
  have hkeywords : b'.relationshipKeywords r' side = b.relationshipKeywords r side := by
    unfold relationshipKeywords
    rw [hkind, hback]
    cases h : r.kind with
    | oneToMany => cases side <;> simp only [hcascade h]
    | oneToOne => rfl
    | manyToMany => simp only [hassociation h]
  unfold relationshipAttribute ClassifiedRelationship.attributeName
  rw [hfar, hsees, hkeywords]

theorem relationshipLine?_eq_some_iff {line : String} :
    b.relationshipLine? t r = some line ↔
      ∃ side, r.side? t = some side ∧ line = (b.relationshipAttribute r side).render := by
  unfold relationshipLine?
  rw [Option.map_eq_some_iff]
  simp only [eq_comm]

theorem relationshipLines_eq (b : Blueprint) (t : Table) :
    b.relationshipLines t = (b.relationships.filterMap (b.relationshipLine? t)).eraseDups := by
  unfold relationshipLines
  rw [List.filterMap_filter]
  congr 1
  apply List.filterMap_congr
  intro s _
  by_cases htouches : s.touches t = true
  · rw [if_pos htouches]
  · have hside : s.side? t = none := by
      rwa [← Option.not_isSome_iff_eq_none, ClassifiedRelationship.isSome_side?_iff]
    rw [if_neg htouches, relationshipLine?, hside, Option.map_none]

theorem count_relationshipLines {line : String} (hr : r ∈ b.relationships)
    (hline : b.relationshipLine? t r = some line) : (b.relationshipLines t).count line = 1 := by
  -- Repeated lines are erased, so it is enough that the line is there at all.
  rw [relationshipLines_eq]
  exact count_eraseDups_of_mem (List.mem_filterMap.mpr ⟨r, hr, hline⟩)

end Blueprint

/-- **The two ends of a relationship.** Between tables with different ids, each end has its line exactly
once, each leads back by the name that the other declares, and each is directed at the class of the other.
Both ends of a many-to-many relationship name the same association table. All of this stands in the text of the
lines. -/
theorem Diagram.relationship_ends_correspond {d : Diagram} {options : Options} {b : Blueprint}
    (hb : d.blueprint options = .ok b) {r : ClassifiedRelationship} (hr : r ∈ b.relationships)
    (hne : r.first.table.id ≠ r.second.table.id) :
    (∀ side,
      d.table? (r.near side).id = some (r.near side) ∧
      b.relationshipLine? (r.near side) r = some (b.relationshipAttribute r side).render ∧
      (b.relationshipLines (r.near side)).count (b.relationshipAttribute r side).render = 1 ∧
      (b.relationshipAttribute r side).valuesOf "back_populates" =
        [literal (b.relationshipAttribute r side.other).name] ∧
      (b.relationshipAttribute r side).targetClass = Naming.pascalCase (r.near side.other).name ∧
      (∃ front back, (b.relationshipAttribute r side).render =
        indent ++ (b.relationshipAttribute r side).name ++ ": Mapped[" ++
          (b.relationshipAttribute r side).typeText ++ "] = relationship(" ++
          literal (Naming.pascalCase (r.near side.other).name) ++ front ++ ", back_populates=" ++
          literal (b.relationshipAttribute r side.other).name ++ back) ∧
      ∀ m, b.modelClass (r.near side.other) = .ok m →
        (b.relationshipAttribute r side).targetClass = m.name) ∧
    (r.kind = .manyToMany → ∃ a ∈ b.associations, ∀ side,
      (b.relationshipAttribute r side).valuesOf "secondary" = [a.name] ∧
      ∃ front back, (b.relationshipAttribute r side).render = front ++ ", secondary=" ++ a.name ++ back) := by
  constructor
  · intro side
    have hfound : d.table? (r.near side).id = some (r.near side) := by
      have hends := foundIn_of_mem_relationships hb hr
      cases side with
      | first => exact hends.1.table
      | second => exact hends.2.table
    have hline : b.relationshipLine? (r.near side) r = some (b.relationshipAttribute r side).render :=
      Blueprint.relationshipLine?_eq_some_iff.mpr ⟨side, r.side?_near hne side, rfl⟩
    have hclass : (b.relationshipAttribute r side).targetClass =
        Naming.pascalCase (r.near side.other).name := by
      rw [r.near_other]
      rfl
    have hback := b.valuesOf_backPopulates r side
    obtain ⟨front, back, htext⟩ := RelationshipAttribute.exists_render_eq_opening_append
      (hback ▸ List.mem_singleton_self (literal (b.relationshipAttribute r side.other).name))
    refine ⟨hfound, hline, Blueprint.count_relationshipLines hr hline, hback, hclass, ⟨front, back, ?_⟩, ?_⟩
    · have hkeyword : ", back_populates=" = ", " ++ "back_populates" ++ "=" := by decide
      rw [htext, RelationshipAttribute.opening, hclass, hkeyword]
      simp only [String.append_assoc]
    · intro m hm
      rw [hclass, Blueprint.name_of_modelClass hm]
  · intro hkind
    obtain ⟨_, a, _, _, hfound, hmem⟩ := Blueprint.exists_associationFor? hb hr hkind
    refine ⟨a, hmem, ?_⟩
    intro side
    have hsecondary : (b.relationshipAttribute r side).valuesOf "secondary" = [a.name] := by
      rw [b.valuesOf_secondary, if_pos hkind, hfound]
      rfl
    obtain ⟨front, back, htext⟩ := RelationshipAttribute.exists_render_eq_opening_append
      (hsecondary ▸ List.mem_singleton_self a.name)
    have hkeyword : ", secondary=" = ", " ++ "secondary" ++ "=" := by decide
    refine ⟨hsecondary, (b.relationshipAttribute r side).opening ++ front, back, ?_⟩
    rw [htext, hkeyword]
    simp only [String.append_assoc]

/-- The third joining of tags and posts has both of its lines, though the same lines belong to the first
one already. -/
theorem Blog.joined_ends_correspond :
    ∃ r ∈ Blog.blueprint.relationships, r.ordinal = 3 ∧ r.first.table.id ≠ r.second.table.id ∧
      (Blog.blueprint.relationshipLines Blog.tags).count
        (Blog.blueprint.relationshipAttribute r .first).render = 1 ∧
      (Blog.blueprint.relationshipAttribute r .first).valuesOf "back_populates" =
        [literal (Blog.blueprint.relationshipAttribute r .second).name] := by
  have hr : Blog.joining (Blog.tags, Blog.tagId) (Blog.posts, Blog.postId) 3 ∈
      Blog.blueprint.relationships := by
    decide +kernel
  have hends := (Diagram.relationship_ends_correspond Blog.blueprint_eq hr (by decide)).1 .first
  exact ⟨_, hr, rfl, by decide, hends.2.2.1, hends.2.2.2.1⟩

end SchemaScribe
