import SchemaScribe.Proofs.ModuleText
import SchemaScribe.Proofs.RelationshipLine

/-!
# Every secondary table is declared

The attributes of a many-to-many relationship name an association table. It is the one of the earliest
relationship between the same tables in the same order, no other association table has its name, and the
generated module has its block in front of all classes.
-/

namespace SchemaScribe

open Source

/-- The association table `a` joins the tables of `r`, and the attributes at both of its ends say so. -/
structure Blueprint.Joins (b : Blueprint) (db : DatabaseType) (r : ClassifiedRelationship)
    (a : AssociationTable) : Prop where
  found : b.associationFor? r = some a
  mem : a ∈ b.associations
  earliest : ∃ earliest, ClassifiedRelationship.EarliestBetween b.relationships r earliest ∧
    AssociationTable.ofRelationship? db earliest = some a
  left_id : a.left.target.table.id = r.first.table.id
  right_id : a.right.target.table.id = r.second.table.id
  lines : ∀ t, r.touches t = true → ∃ side, r.side? t = some side ∧
    b.relationshipLine? t r = some (b.relationshipAttribute r side).render ∧
    (b.relationshipAttribute r side).valuesOf "secondary" = [a.name] ∧
    ∃ front back, (b.relationshipAttribute r side).render = front ++ "secondary" ++ "=" ++ a.name ++ back
  name_unique : ∀ other ∈ b.associations, other.name = a.name → other = a

/-- The text consists of a header, the blocks of association tables and the blocks of classes, and `a` is
among the tables, declared under its name. -/
def ModelsModule.DeclaresBeforeClasses (text : String) (associations : List AssociationTable)
    (classes : List ModelClass) (a : AssociationTable) : Prop :=
  ∃ earlier later body, associations = earlier ++ a :: later ∧
    a.render = a.name ++ " = Table(" ++ literal a.name ++ body ∧
    text = header classes ++ associationPart earlier ++ ("\n" ++ a.render ++ "\n") ++
      associationPart later ++ classPart classes ++ "\n\n"

theorem AssociationTable.exists_render_eq (a : AssociationTable) :
    ∃ body, a.render = a.name ++ " = Table(" ++ literal a.name ++ body := by
  rw [render_eq]
  simp only [String.append_assoc]
  exact ⟨_, rfl⟩

theorem ModelsModule.declaresBeforeClasses_assemble {associations : List AssociationTable}
    {a : AssociationTable} (ha : a ∈ associations) (classes : List ModelClass) :
    DeclaresBeforeClasses (assemble associations classes) associations classes a := by
  obtain ⟨earlier, later, hsplit⟩ := List.append_of_mem ha
  obtain ⟨body, hbody⟩ := a.exists_render_eq
  refine ⟨earlier, later, body, hsplit, hbody, ?_⟩
  rw [assemble_eq, hsplit, associationPart_append, associationPart_cons]
  simp only [String.append_assoc]

namespace Blueprint

variable {d : Diagram} {options : Options} {b : Blueprint}

theorem exists_joins (hb : d.blueprint options = .ok b) {r : ClassifiedRelationship}
    (hr : r ∈ b.relationships) (hkind : r.kind = .manyToMany) :
    ∃ a, b.Joins d.databaseType r a := by
  obtain ⟨earliest, a, hearliest, ha, hfound, hmem⟩ := exists_associationFor? hb hr hkind
  have hpair : a.tablePair = r.tablePair :=
    (AssociationTable.tablePair_of_ofRelationship? ha).trans hearliest.samePair
  refine ⟨a, hfound, hmem, ⟨earliest, hearliest, ha⟩, congrArg Prod.fst hpair, congrArg Prod.snd hpair,
    ?_, ?_⟩
  · intro t htouches
    rw [← ClassifiedRelationship.isSome_side?_iff, Option.isSome_iff_exists] at htouches
    obtain ⟨side, hside⟩ := htouches
    have hsecondary : (b.relationshipAttribute r side).valuesOf "secondary" = [a.name] := by
      rw [valuesOf_secondary, if_pos hkind, hfound]
      rfl
    refine ⟨side, hside, relationshipLine?_eq_some_iff.mpr ⟨side, hside, rfl⟩, hsecondary, ?_⟩
    apply RelationshipAttribute.exists_render_eq_of_mem_valuesOf
    rw [hsecondary]
    exact List.mem_cons_self
  · intro other hother hname
    exact association_eq_of_name_eq hb hother hmem hname

theorem exists_of_mem_relationshipLines {t : Table} {line : String}
    (hline : line ∈ b.relationshipLines t) :
    ∃ r ∈ b.relationships, ∃ side, r.side? t = some side ∧
      line = (b.relationshipAttribute r side).render := by
  rw [relationshipLines_eq, List.mem_eraseDups, List.mem_filterMap] at hline
  obtain ⟨r, hr, hsome⟩ := hline
  obtain ⟨side, hside, heq⟩ := relationshipLine?_eq_some_iff.mp hsome
  exact ⟨r, hr, side, hside, heq⟩

theorem kind_of_mem_valuesOf_secondary {r : ClassifiedRelationship} {side : Side} {name : String}
    (h : name ∈ (b.relationshipAttribute r side).valuesOf "secondary") : r.kind = .manyToMany := by
  rw [valuesOf_secondary] at h
  by_contra hkind
  rw [if_neg hkind] at h
  exact List.not_mem_nil h

end Blueprint

/-- **Secondary tables.** Every many-to-many relationship has a table that joins it, which is declared in
front of the classes whenever a module is generated. Conversely, what a line of any class names as its
secondary table joins the relationship of that line. -/
theorem Diagram.secondary_tables_declared {d : Diagram} {options : Options} {b : Blueprint}
    (hb : d.blueprint options = .ok b) :
    (∀ r ∈ b.relationships, r.kind = .manyToMany →
      ∃ a, b.Joins d.databaseType r a ∧
        ∀ text, d.modelsModule options = .ok text → ∃ classes,
          b.modelClasses d.tables = .ok classes ∧
            ModelsModule.DeclaresBeforeClasses text b.associations classes a) ∧
    ∀ t, ∀ line ∈ b.relationshipLines t, ∃ r ∈ b.relationships, ∃ side,
      line = (b.relationshipAttribute r side).render ∧
        ∀ name ∈ (b.relationshipAttribute r side).valuesOf "secondary",
          ∃ a, b.Joins d.databaseType r a ∧ a.name = name := by
  constructor
  · intro r hr hkind
    obtain ⟨a, ha⟩ := Blueprint.exists_joins hb hr hkind
    refine ⟨a, ha, ?_⟩
    intro text htext
    have htable := (Diagram.foundIn_of_mem_relationships hb hr).1.table
    have htables : d.tables ≠ [] := List.ne_nil_of_mem (Diagram.mem_of_table?_eq_some htable)
    obtain ⟨b', classes, hb', hclasses, rfl⟩ := (Diagram.modelsModule_eq_ok_iff htables).mp htext
    obtain rfl := Except.ok.inj (hb.symm.trans hb')
    exact ⟨classes, hclasses, ModelsModule.declaresBeforeClasses_assemble ha.mem classes⟩
  · intro t line hline
    obtain ⟨r, hr, side, hside, rfl⟩ := Blueprint.exists_of_mem_relationshipLines hline
    refine ⟨r, hr, side, rfl, ?_⟩
    intro name hname
    have hkind := Blueprint.kind_of_mem_valuesOf_secondary hname
    obtain ⟨a, ha⟩ := Blueprint.exists_joins hb hr hkind
    refine ⟨a, ha, ?_⟩
    rw [Blueprint.valuesOf_secondary, if_pos hkind, ha.found] at hname
    exact (List.mem_singleton.mp hname).symm

/-- The third many-to-many relationship of the blog has the tables of the first one, and its table. -/
theorem Blog.repeated_pair_declared :
    ∃ a text classes, blueprint.Joins .postgresql (joining (tags, tagId) (posts, postId) 3) a ∧
      a.ordinal = 1 ∧ diagram.modelsModule {} = .ok text ∧
      ModelsModule.DeclaresBeforeClasses text blueprint.associations classes a := by
  have hr : joining (tags, tagId) (posts, postId) 3 ∈ blueprint.relationships := by
    decide +kernel
  obtain ⟨a, ha, hdeclared⟩ := (Diagram.secondary_tables_declared blueprint_eq).1 _ hr rfl
  obtain ⟨text, htext⟩ : ∃ text, diagram.modelsModule {} = .ok text := ⟨_, rfl⟩
  obtain ⟨classes, _, hbefore⟩ := hdeclared text htext
  have hfound : (blueprint.associationFor? (joining (tags, tagId) (posts, postId) 3)).map (·.ordinal) =
      some 1 := rfl
  rw [ha.found] at hfound
  exact ⟨a, text, classes, ha, Option.some.inj hfound, htext, hbefore⟩

end SchemaScribe
