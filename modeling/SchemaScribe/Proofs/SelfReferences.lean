import SchemaScribe.Proofs.PluralNames
import SchemaScribe.Proofs.Views

/-!
# Relationships of a table with itself

A table that stands at both ends of a relationship has one attribute for it, that of the first end. This leads
back by the name that the second end would declare, and in a relationship between one and many that is another
name. So the attribute leads back to one that is declared exactly if the name of the table is a plural already,
or if another relationship happens to declare the name.
-/

namespace SchemaScribe

open Source

/-! ### Declared attributes -/

/-- The line declares an attribute of this name. -/
def Source.DeclaresAttribute (line name : String) : Prop :=
  ∃ rest, line = indent ++ name ++ ": Mapped[" ++ rest

/-- One of the relationship lines of a table declares an attribute of this name. -/
def Blueprint.Declares (b : Blueprint) (t : Table) (name : String) : Prop :=
  ∃ line ∈ b.relationshipLines t, DeclaresAttribute line name

theorem Naming.colon_not_mem_of_isPlain {name : String} (h : IsPlain name) : ':' ∉ name.toList := by
  intro hcolon
  exact absurd (h ':' hcolon) (by decide)

/-- The name ends at the first colon of the line. -/
theorem Source.name_eq_of_declaresAttribute {line name name' : String} (hname : Naming.IsPlain name)
    (hname' : Naming.IsPlain name') (h : DeclaresAttribute line name) (h' : DeclaresAttribute line name') :
    name = name' := by
  obtain ⟨rest, rfl⟩ := h
  obtain ⟨rest', heq⟩ := h'
  obtain ⟨type, hopen⟩ : ∃ type, ": Mapped[".toList = ':' :: type := ⟨_, rfl⟩
  have hchars : name.toList ++ ':' :: (type ++ rest.toList) = name'.toList ++ ':' :: (type ++ rest'.toList) := by
    have hline := congrArg String.toList heq
    simp only [String.toList_append, hopen, List.append_assoc, List.cons_append] at hline
    exact List.append_cancel_left hline
  have hreverse : (type ++ rest.toList).reverse ++ ':' :: name.toList.reverse =
      (type ++ rest'.toList).reverse ++ ':' :: name'.toList.reverse := by
    have hline := congrArg List.reverse hchars
    rwa [List.reverse_append, List.reverse_append, List.reverse_cons, List.reverse_cons, List.append_assoc,
      List.append_assoc, List.singleton_append, List.singleton_append] at hline
  have hnot : ∀ {text : String}, Naming.IsPlain text → ':' ∉ text.toList.reverse := by
    intro text htext
    rw [List.mem_reverse]
    exact Naming.colon_not_mem_of_isPlain htext
  exact String.toList_inj.mp (List.reverse_inj.mp (eq_of_append_cons_eq (hnot hname) (hnot hname') hreverse))

theorem RelationshipAttribute.declaresAttribute_render (a : RelationshipAttribute) :
    DeclaresAttribute a.render a.name := by
  refine ⟨a.typeText ++ ("] = relationship(" ++ (literal a.targetClass ++
    (String.join (a.keywords.map fun k => ", " ++ k.render) ++ ")"))), ?_⟩
  rw [render_eq, opening]
  simp only [String.append_assoc]

namespace ClassifiedRelationship

theorem isPlain_attributeName (r : ClassifiedRelationship) (side : Side) :
    Naming.IsPlain (r.attributeName side) := by
  unfold attributeName attributeNameFor
  cases r.seesMany side with
  | false => exact Naming.isPlain_sanitize _
  | true => exact Naming.isPlain_sanitize _

/-- Both ends are in this table. -/
def IsWithin (r : ClassifiedRelationship) (t : Table) : Prop :=
  r.first.table.id = t.id ∧ r.second.table.id = t.id

instance (r : ClassifiedRelationship) (t : Table) : Decidable (r.IsWithin t) :=
  inferInstanceAs (Decidable (_ ∧ _))

theorem IsWithin.side?_eq {r : ClassifiedRelationship} {t : Table} (h : r.IsWithin t) :
    r.side? t = some .first := by
  unfold side?
  exact if_pos h.1

end ClassifiedRelationship

namespace Blueprint

variable {b : Blueprint} {r : ClassifiedRelationship} {t : Table}

/-- The names that a table declares are those of its sides of relationships. -/
theorem declares_iff {name : String} (hname : Naming.IsPlain name) :
    b.Declares t name ↔ ∃ s ∈ b.relationships, ∃ side, s.side? t = some side ∧ s.attributeName side = name := by
  constructor
  · rintro ⟨line, hline, hdeclares⟩
    obtain ⟨s, hs, side, hside, rfl⟩ := exists_of_mem_relationshipLines hline
    refine ⟨s, hs, side, hside, ?_⟩
    exact name_eq_of_declaresAttribute (s.isPlain_attributeName side) hname
      (b.relationshipAttribute s side).declaresAttribute_render hdeclares
  · rintro ⟨s, hs, side, hside, rfl⟩
    exact ⟨_, (directedAt_relationshipAttribute hs hside).1,
      (b.relationshipAttribute s side).declaresAttribute_render⟩

end Blueprint

/-! ### Leading back -/

namespace ClassifiedRelationship

variable {r : ClassifiedRelationship}

/-- Within one table, the attribute is named like the one it leads back by, unless there is one of the table
for many. -/
theorem backName_eq_attributeName_iff (hsame : r.second.table = r.first.table) :
    r.backName .first = r.attributeName .first ↔
      (r.kind = .oneToMany → Naming.IsPlural r.first.table.name) := by
  have hfar : r.far .first = r.first.table := hsame
  have hnear : r.near .first = r.first.table := rfl
  unfold backName attributeName
  rw [hfar, hnear]
  cases hkind : r.kind with
  | oneToMany =>
      have hhere : r.seesMany .first = true := by
        simp only [seesMany, hkind]
      have hback : r.seesMany (Side.other .first) = false := by
        simp only [seesMany, hkind, Side.other]
      rw [hhere, hback, eq_comm]
      simpa [attributeNameFor] using Naming.collectionAttribute_eq_scalarAttribute_iff
  | oneToOne => simp [seesMany, hkind]
  | manyToMany => simp [seesMany, hkind]

/-- The one end of a relationship between one and many is led back to by the name for one of its table. -/
theorem backName_eq_scalarAttribute (hkind : r.kind = .oneToMany) :
    r.backName .first = Naming.scalarAttribute r.first.table.name := by
  have hone : r.seesMany (Side.other .first) = false := by
    simp only [seesMany, hkind, Side.other]
  rw [backName, hone]
  rfl

end ClassifiedRelationship

/-- The name that leads back is that of the relationship itself, or of another one. -/
theorem Blueprint.declares_backName_iff {b : Blueprint} {r : ClassifiedRelationship} {t : Table}
    (hr : r ∈ b.relationships) (hwithin : r.IsWithin t) (hsame : r.second.table = r.first.table) :
    b.Declares t (r.backName .first) ↔
      (r.kind = .oneToMany →
        Naming.IsPlural r.first.table.name ∨
          ∃ s ∈ b.relationships, s ≠ r ∧ ∃ side, s.side? t = some side ∧
            s.attributeName side = Naming.scalarAttribute r.first.table.name) := by
  have hplain : Naming.IsPlain (r.backName .first) := by
    rw [r.backName_eq]
    exact r.isPlain_attributeName _
  have hown := ClassifiedRelationship.backName_eq_attributeName_iff hsame
  rw [declares_iff hplain]
  constructor
  · rintro ⟨s, hs, side, hside, hname⟩ hkind
    by_cases hself : s = r
    · subst hself
      obtain rfl := Option.some.inj (hwithin.side?_eq.symm.trans hside)
      exact Or.inl (hown.mp hname.symm hkind)
    · rw [ClassifiedRelationship.backName_eq_scalarAttribute hkind] at hname
      exact Or.inr ⟨s, hs, hself, side, hside, hname⟩
  · intro h
    by_cases hother : r.kind = .oneToMany ∧ ¬ Naming.IsPlural r.first.table.name
    · obtain ⟨hkind, hplural⟩ := hother
      obtain ⟨s, hs, _, side, hside, hname⟩ := (h hkind).resolve_left hplural
      exact ⟨s, hs, side, hside, hname.trans (ClassifiedRelationship.backName_eq_scalarAttribute hkind).symm⟩
    · have hname : r.backName .first = r.attributeName .first := by
        rw [hown]
        intro hkind
        by_contra hplural
        exact hother ⟨hkind, hplural⟩
      exact ⟨r, hr, .first, hwithin.side?_eq, hname.symm⟩

/-- **Relationships within one table.** Each has one line in the table, once, which leads back by a single name.
The table declares that name exactly if the relationship is not between one and many, or the name of the
table is a plural, or another relationship has an attribute of that name in the table. -/
theorem Diagram.self_reference_leads_back_iff {d : Diagram} {options : Options} {b : Blueprint}
    {r : ClassifiedRelationship} {t : Table} (hb : d.blueprint options = .ok b) (hr : r ∈ b.relationships)
    (hwithin : r.IsWithin t) :
    b.relationshipLine? t r = some (b.relationshipAttribute r .first).render ∧
    (b.relationshipLines t).count (b.relationshipAttribute r .first).render = 1 ∧
    (b.relationshipAttribute r .first).valuesOf "back_populates" = [literal (r.backName .first)] ∧
    (∀ m, b.modelClass t = .ok m → m.relationships = b.relationshipLines t) ∧
    (b.Declares t (r.backName .first) ↔
      (r.kind = .oneToMany →
        Naming.IsPlural r.first.table.name ∨
          ∃ s ∈ b.relationships, s ≠ r ∧ ∃ side, s.side? t = some side ∧
            s.attributeName side = Naming.scalarAttribute r.first.table.name)) := by
  obtain ⟨hfirst, hsecond⟩ := foundIn_of_mem_relationships hb hr
  have hsame : r.second.table = r.first.table := hsecond.table_eq hfirst (hwithin.2.trans hwithin.1.symm)
  have hline : b.relationshipLine? t r = some (b.relationshipAttribute r .first).render :=
    Blueprint.relationshipLine?_eq_some_iff.mpr ⟨.first, hwithin.side?_eq, rfl⟩
  have hback : (b.relationshipAttribute r .first).valuesOf "back_populates" = [literal (r.backName .first)] := by
    rw [r.backName_eq]
    exact b.valuesOf_backPopulates r .first
  exact ⟨hline, Blueprint.count_relationshipLines hr hline, hback,
    fun _ => Blueprint.relationships_of_modelClass, Blueprint.declares_backName_iff hr hwithin hsame⟩

namespace Taxonomy

def categoryId : Field := { id := "c1", name := "id", type := ⟨"integer", none⟩, primaryKey := true }

def parentId : Field := { id := "c2", name := "parent_id", type := ⟨"integer", none⟩ }

def originId : Field := { id := "c3", name := "origin_id", type := ⟨"integer", none⟩, unique := true }

def category : Table := { id := "c", name := "category", fields := [categoryId, parentId, originId] }

def parenthood : Relationship where
  sourceTableId := "c"
  sourceFieldId := "c1"
  targetTableId := "c"
  targetFieldId := "c2"

def origin : Relationship where
  sourceTableId := "c"
  sourceFieldId := "c3"
  targetTableId := "c"
  targetFieldId := "c1"
  targetCardinality := .one

def tree : ClassifiedRelationship :=
  ⟨.oneToMany, ⟨category, categoryId⟩, ⟨category, parentId⟩, parenthood, 0⟩

def copy : ClassifiedRelationship :=
  ⟨.oneToOne, ⟨category, originId⟩, ⟨category, categoryId⟩, origin, 1⟩

/-- Categories that have a parent and an origin. -/
def diagram : Diagram where
  tables := [category]
  relationships := [parenthood, origin]

/-- Categories that have a parent only. -/
def treeDiagram : Diagram where
  tables := [category]
  relationships := [parenthood]

/-- With an origin, which is an attribute named like the table, the attribute for children leads back to it. -/
theorem children_lead_to_origin :
    (Blueprint.ofRelationships diagram {} [tree, copy]).Declares category "category" ∧
      tree.backName .first = "category" ∧ ¬ Naming.IsPlural category.name := by
  have hback : tree.backName .first = "category" := by decide
  have hplural : ¬ Naming.IsPlural category.name := by decide
  have hb : diagram.blueprint {} = .ok (.ofRelationships diagram {} [tree, copy]) := rfl
  have htree : tree ∈ [tree, copy] := List.mem_cons_self
  have hwithin : tree.IsWithin category := by decide
  have hleads := Diagram.self_reference_leads_back_iff hb htree hwithin
  rw [hback] at hleads
  refine ⟨hleads.2.2.2.2.mpr ?_, hback, hplural⟩
  intro _
  exact Or.inr ⟨copy, by decide, by decide, .first, by decide, by decide⟩

/-- Without one, the only relationship attribute is `categories`, and it leads back by `category`. -/
theorem children_lead_nowhere :
    treeDiagram.blueprint {} = .ok (.ofRelationships treeDiagram {} [tree]) ∧ tree.IsWithin category ∧
      (Blueprint.ofRelationships treeDiagram {} [tree]).relationshipLines category =
        ["    categories: Mapped[list[Category]] = relationship(\"Category\", " ++
          "back_populates=\"category\", lazy=\"selectin\", cascade=\"all, delete-orphan\")"] ∧
      ¬ (Blueprint.ofRelationships treeDiagram {} [tree]).Declares category "category" := by
  refine ⟨rfl, by decide, by decide +kernel, ?_⟩
  rw [Blueprint.declares_iff (by decide)]
  rintro ⟨s, hs, side, hside, hname⟩
  obtain rfl := List.mem_singleton.mp hs
  obtain rfl : Side.first = side := Option.some.inj hside
  exact absurd hname (by decide)

end Taxonomy

end SchemaScribe
