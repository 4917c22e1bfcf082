import SchemaScribe.Proofs.AssociationIndex
import SchemaScribe.Proofs.Identifiers

/-!
# The names of association tables

An association table is named for the two tables that it joins and for the place of its relationship. The names
of the tables are sanitized and may have underscores and digits of their own, so they cannot be told apart in
it. What stands behind the last underscore is the place, and no two relationships share one.
-/

namespace SchemaScribe

namespace Naming

theorem isPrefix_associationName (left right : String) (ordinal : Nat) :
    "assoc_".toList <+: (associationName associationMark left right ordinal).toList := by
  have hmark : "assoc_".toList = (associationMark.toList ++ ['_']).map sanitizeChar := by decide
  rw [toList_associationName, hmark]
  refine ⟨(left.toList ++ '_' :: right.toList).map sanitizeChar ++ '_' :: Nat.toDigits 10 ordinal, ?_⟩
  simp

theorem isPlain_associationName (mark left right : String) (ordinal : Int) :
    IsPlain (associationName mark left right ordinal) :=
  isPlain_sanitize _

theorem isIdentifier_associationName (left right : String) (ordinal : Nat) :
    IsIdentifier (associationName associationMark left right ordinal) := by
  refine ⟨⟨'a', ?_, by decide⟩, ?_⟩
  · obtain ⟨rest, hrest⟩ := isPrefix_associationName left right ordinal
    rw [← hrest]
    rfl
  · intro c hc
    exact isWordCharacter_of_isIdentifierChar (isPlain_associationName _ _ _ _ c hc)

end Naming

/-- The ordinal of each relationship is its place in the list. -/
def ClassifiedRelationship.NumberedByPlace (rs : List ClassifiedRelationship) : Prop :=
  rs.map (·.ordinal) = List.range rs.length

instance (rs : List ClassifiedRelationship) : Decidable (ClassifiedRelationship.NumberedByPlace rs) :=
  inferInstanceAs (Decidable (_ = _))

open ClassifiedRelationship

theorem Diagram.numberedByPlace_of_classifyAll {d : Diagram} {rs : List ClassifiedRelationship}
    (h : d.classifyAll = .ok rs) : NumberedByPlace rs := by
  unfold NumberedByPlace
  apply List.ext_getElem (by simp)
  intro i hi _
  rw [List.getElem_map, List.getElem_range]
  exact ordinal_of_getElem?_classifyAll h (List.getElem?_eq_getElem (by simpa using hi))

namespace AssociationTable

variable {db : DatabaseType} {rs : List ClassifiedRelationship}

theorem exists_name_eq_of_mem {a : AssociationTable} (ha : a ∈ ofRelationships db rs) :
    ∃ r ∈ rs, a.name =
      Naming.associationName Naming.associationMark r.first.table.name r.second.table.name r.ordinal := by
  obtain ⟨r, hr, hra⟩ := mem_ofRelationships_iff.mp ha
  exact ⟨r, hr, name_of_ofRelationship? hra⟩

theorem nodup_names (h : rs.Pairwise fun r s => r.ordinal ≠ s.ordinal) :
    ((ofRelationships db rs).map (·.name)).Nodup := by
  rw [List.Nodup, List.pairwise_map, ofRelationships, List.pairwise_filterMap]
  refine h.imp ?_
  intro r s hordinal a ha b hb hname
  rw [name_of_ofRelationship? ha, name_of_ofRelationship? hb] at hname
  exact hordinal (Naming.ordinal_eq_of_associationName_eq hname)

end AssociationTable

theorem ClassifiedRelationship.NumberedByPlace.pairwise {rs : List ClassifiedRelationship}
    (h : NumberedByPlace rs) : rs.Pairwise fun r s => r.ordinal ≠ s.ordinal := by
  have hnodup : (rs.map (·.ordinal)).Nodup := h ▸ List.nodup_range
  exact List.pairwise_map.mp hnodup

/-- **Distinct names.** The association tables of relationships that are numbered by their places, as those of
a diagram are, have names that are pairwise distinct, and each is an identifier of ASCII characters that begins
with the mark. Names that are made for different places are different, whichever tables they join. -/
theorem AssociationTable.association_names_distinct (db : DatabaseType) {rs : List ClassifiedRelationship}
    (h : NumberedByPlace rs) :
    ((ofRelationships db rs).map (·.name)).Nodup ∧
    (∀ a ∈ ofRelationships db rs,
      Naming.IsPlain a.name ∧ Naming.IsIdentifier a.name ∧ "assoc_".toList <+: a.name.toList) ∧
    (∀ (mark left right left' right' : String) (i j : Nat),
      Naming.associationName mark left right i = Naming.associationName mark left' right' j → i = j) ∧
    ∀ (d : Diagram) (found : List ClassifiedRelationship), d.classifyAll = .ok found → NumberedByPlace found := by
  refine ⟨nodup_names h.pairwise, ?_, ?_, ?_⟩
  · intro a ha
    obtain ⟨r, _, hname⟩ := exists_name_eq_of_mem ha
    rw [hname]
    exact ⟨Naming.isPlain_associationName _ _ _ _, Naming.isIdentifier_associationName _ _ _,
      Naming.isPrefix_associationName _ _ _⟩
  · intro mark left right left' right' i j hname
    exact Naming.ordinal_eq_of_associationName_eq hname
  · intro d found hfound
    exact Diagram.numberedByPlace_of_classifyAll hfound

namespace Crossroads

def milestone : Field := { id := "m", name := "milestone", type := ⟨"integer", none⟩, primaryKey := true }

def route (id name : String) : Endpoint :=
  ⟨{ id := id, name := name, fields := [milestone] }, milestone⟩

/-- The many-to-many relationship at a place, between two routes. -/
def crossing (first second : Endpoint) (ordinal : Nat) : ClassifiedRelationship where
  kind := .manyToMany
  first := first
  second := second
  relationship := {
    sourceTableId := first.table.id
    sourceFieldId := first.field.id
    targetTableId := second.table.id
    targetFieldId := second.field.id
    sourceCardinality := .many }
  ordinal := ordinal

/-- Sanitizing makes one name of the names of both routes. -/
def crossings : List ClassifiedRelationship :=
  [crossing (route "a" "route 1") (route "b" "route_1") 0,
    crossing (route "b" "route_1") (route "a" "route 1") 1]

theorem crossings_told_apart :
    NumberedByPlace crossings ∧
      (AssociationTable.ofRelationships .generic crossings).map (·.name) =
        ["assoc_route_1_route_1_0", "assoc_route_1_route_1_1"] ∧
      ((AssociationTable.ofRelationships .generic crossings).map (·.name)).Nodup ∧
      ∀ a ∈ AssociationTable.ofRelationships .generic crossings,
        Naming.IsPlain a.name ∧ Naming.IsIdentifier a.name ∧ "assoc_".toList <+: a.name.toList := by
  have hplaces : NumberedByPlace crossings := by decide
  obtain ⟨hnodup, hidentifiers, _⟩ := AssociationTable.association_names_distinct .generic hplaces
  exact ⟨hplaces, by decide, hnodup, hidentifiers⟩

end Crossroads

end SchemaScribe
