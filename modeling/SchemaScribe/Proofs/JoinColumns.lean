import SchemaScribe.Proofs.AssociationIndex
import SchemaScribe.Proofs.ModuleText

/-!
# When the columns of an association table clash

An association table has a column for either end of its relationship, named after the field there alone.
Nothing keeps the two names apart: they are the same whenever the fields have the same name, and also when
the names differ only in characters that sanitizing does not keep.
-/

namespace SchemaScribe

open Source

/-- The block of `a` has a line for either end of `r`, foreign key and part of the primary key at once. -/
structure AssociationTable.HasColumnsFor (a : AssociationTable) (r : ClassifiedRelationship) : Prop where
  left : a.left = ⟨Naming.sanitize r.first.field.name, r.first⟩
  right : a.right = ⟨Naming.sanitize r.second.field.name, r.second⟩
  block : a.render = a.name ++ " = Table(" ++ literal a.name ++ ", Base.metadata,\n" ++
    ("    sa.Column(" ++ literal a.left.name ++ ", " ++ Field.foreignKeyArgument r.first ++
      ", primary_key=True),") ++ "\n" ++
    ("    sa.Column(" ++ literal a.right.name ++ ", " ++ Field.foreignKeyArgument r.second ++
      ", primary_key=True),") ++ "\n" ++ a.schemaPart ++ ")"

theorem AssociationTable.hasColumnsFor_of_ofRelationship? {db : DatabaseType}
    {r : ClassifiedRelationship} {a : AssociationTable} (h : ofRelationship? db r = some a) :
    a.HasColumnsFor r := by
  obtain ⟨hleft, hright, _⟩ := columns_of_ofRelationship? h
  refine ⟨hleft, hright, ?_⟩
  rw [render_eq, AssociationColumn.render_eq, AssociationColumn.render_eq, hleft, hright]
  rfl

/-- A relationship has no association table of its own besides the one made from it. -/
theorem Blueprint.association_eq_of_ordinal_eq {d : Diagram} {options : Options} {b : Blueprint}
    (hb : d.blueprint options = .ok b) {r : ClassifiedRelationship} (hr : r ∈ b.relationships)
    {a : AssociationTable} (ha : AssociationTable.ofRelationship? d.databaseType r = some a)
    {other : AssociationTable} (hother : other ∈ b.associations) (hordinal : other.ordinal = r.ordinal) :
    other = a := by
  obtain ⟨rs, hrs, rfl⟩ := Diagram.blueprint_eq_ok_iff.mp hb
  obtain ⟨s, hs, hsother⟩ := AssociationTable.mem_ofRelationships_iff.mp hother
  have hsordinal : s.ordinal = r.ordinal := by
    rw [← hordinal, (AssociationTable.columns_of_ofRelationship? hsother).2.2]
  obtain rfl := Diagram.eq_of_ordinal_eq hrs hs hr hsordinal
  exact Option.some.inj (hsother.symm.trans ha)

/-- **Clashing columns.** The association table of a many-to-many relationship has two columns, each a
foreign key to one end and part of the primary key. Their names are the same exactly if the names of the two
fields differ at most where neither has a letter or digit. -/
theorem Diagram.join_columns_clash_iff {d : Diagram} {options : Options} {b : Blueprint}
    (hb : d.blueprint options = .ok b) {r : ClassifiedRelationship} (hr : r ∈ b.relationships)
    (hkind : r.kind = .manyToMany) :
    ∃ a ∈ b.associations, AssociationTable.ofRelationship? d.databaseType r = some a ∧
      (∀ other ∈ b.associations, other.ordinal = r.ordinal → other = a) ∧
      a.HasColumnsFor r ∧
      (a.left.name = a.right.name ↔
        List.Forall₂ Naming.SameOrBothMarks r.first.field.name.toList r.second.field.name.toList) := by
  obtain ⟨a, ha⟩ := AssociationTable.exists_ofRelationship? d.databaseType hkind
  have hmem : a ∈ b.associations := by
    obtain ⟨rs, _, rfl⟩ := blueprint_eq_ok_iff.mp hb
    exact AssociationTable.mem_ofRelationships_iff.mpr ⟨r, hr, ha⟩
  have hcolumns : a.HasColumnsFor r := AssociationTable.hasColumnsFor_of_ofRelationship? ha
  refine ⟨a, hmem, ha, ?_, hcolumns, ?_⟩
  · intro other hother hordinal
    exact Blueprint.association_eq_of_ordinal_eq hb hr ha hother hordinal
  · rw [hcolumns.left, hcolumns.right]
    exact Naming.sanitize_eq_iff

namespace Blog

/-- Tags and posts are joined by columns with different names. -/
theorem join_columns_differ :
    ∃ a ∈ blueprint.associations, a.HasColumnsFor (joining (tags, tagId) (posts, postId) 1) ∧
      a.left.name ≠ a.right.name := by
  have hr : joining (tags, tagId) (posts, postId) 1 ∈ blueprint.relationships := by
    decide +kernel
  obtain ⟨a, hmem, _, _, hcolumns, hclash⟩ := Diagram.join_columns_clash_iff blueprint_eq hr rfl
  refine ⟨a, hmem, hcolumns, ?_⟩
  intro hname
  exact absurd (hclash.mp hname).length_eq (by decide)

def key : Field := { id := "i", name := "id", type := ⟨"integer", none⟩, primaryKey := true }

/-- Two tables with keys of the same name. -/
def keyedAlike : Diagram where
  databaseType := .mysql
  tables := [{ id := "t", name := "tags", fields := [key] }, { id := "p", name := "posts", fields := [key] }]
  relationships := [⟨"t", "i", "p", "i", .many, .many, none, none, none⟩]

/-- A module is generated for them, and both columns of the association table in it are named `id`. -/
theorem join_columns_clash :
    ∃ text b r a, keyedAlike.modelsModule {} = .ok text ∧ keyedAlike.blueprint {} = .ok b ∧
      b.relationships = [r] ∧ r.kind = .manyToMany ∧ b.associations = [a] ∧
      AssociationTable.ofRelationship? .mysql r = some a ∧ a.left.name = "id" ∧ a.right.name = "id" :=
  ⟨_, _, _, _, rfl, rfl, rfl, rfl, rfl, rfl, by decide, by decide⟩

end Blog

end SchemaScribe
