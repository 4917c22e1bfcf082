import SchemaScribe.Proofs.ForeignKeys
import SchemaScribe.Proofs.SecondaryTable

/-!
# When a module refers to a view

Views have no class. Relationships take no notice of that: their attributes, foreign keys and association
tables are made for whatever tables they join. So a module may need a table that it does not declare. This
happens exactly if a relationship leads from a class to a view, or joins a view by an association table.
-/

namespace SchemaScribe

open Source

/-- The line of a table is an attribute directed at the class of `u`, for a relationship that has `u` at its
other end. -/
structure Blueprint.DirectedAt (b : Blueprint) (t : Table) (line : String) (u : Table) : Prop where
  relationship : ∃ r ∈ b.relationships, ∃ side, r.side? t = some side ∧ r.far side = u ∧
    line = (b.relationshipAttribute r side).render ∧
    (b.relationshipAttribute r side).targetClass = Naming.pascalCase u.name
  text : ∃ front type back,
    (type = Naming.pascalCase u.name ∨ type = "list[" ++ Naming.pascalCase u.name ++ "]") ∧
    line = front ++ ": Mapped[" ++ type ++ "] = relationship(" ++ literal (Naming.pascalCase u.name) ++ back

/-- Some table at this end of a relationship has a class. -/
def Diagram.HasClassAt (d : Diagram) (r : ClassifiedRelationship) (side : Side) : Prop :=
  ∃ t ∈ d.tables, t.isView = false ∧ r.side? t = some side

/-- A relationship leads from classes to classes only, and joins by an association table only what has a
class. -/
structure Diagram.KeepsToClasses (d : Diagram) (r : ClassifiedRelationship) : Prop where
  far : ∀ side, d.HasClassAt r side → (r.far side).isView = false
  joined : r.kind = .manyToMany → r.first.table.isView = false ∧ r.second.table.isView = false

namespace Blueprint

/-- The tables at whose classes the attributes of a table are directed. -/
def attributeTargets (b : Blueprint) (t : Table) : List Table :=
  b.relationships.filterMap fun r => (r.side? t).map r.far

/-- The tables that a module needs: its attributes are directed at their classes, or its foreign keys refer
to them. -/
def neededTables (b : Blueprint) (tables : List Table) : List Table :=
  (tables.filter (!·.isView)).flatMap b.attributeTargets ++ (b.references tables).map (·.table)

variable {d : Diagram} {options : Options} {b : Blueprint} {r : ClassifiedRelationship} {t u : Table}

theorem mem_attributeTargets_iff :
    u ∈ b.attributeTargets t ↔ ∃ r ∈ b.relationships, ∃ side, r.side? t = some side ∧ r.far side = u := by
  unfold attributeTargets
  rw [List.mem_filterMap]
  simp only [Option.map_eq_some_iff]

theorem mem_neededTables_iff {tables : List Table} :
    u ∈ b.neededTables tables ↔
      (∃ t ∈ tables, t.isView = false ∧ u ∈ b.attributeTargets t) ∨
        ∃ e ∈ b.references tables, e.table = u := by
  unfold neededTables
  rw [List.mem_append, List.mem_flatMap, List.mem_map]
  simp only [List.mem_filter, Bool.not_eq_true', and_assoc]

/-! ### The lines of a class -/

theorem directedAt_relationshipAttribute (hr : r ∈ b.relationships) {side : Side}
    (hside : r.side? t = some side) :
    (b.relationshipAttribute r side).render ∈ b.relationshipLines t ∧
      b.DirectedAt t (b.relationshipAttribute r side).render (r.far side) := by
  have hline : b.relationshipLine? t r = some (b.relationshipAttribute r side).render :=
    relationshipLine?_eq_some_iff.mpr ⟨side, hside, rfl⟩
  obtain ⟨front, back, htext⟩ := (b.relationshipAttribute r side).exists_render_eq_targetClass
  refine ⟨?_, ⟨r, hr, side, hside, rfl, rfl, rfl⟩,
    ⟨front, _, back, (b.relationshipAttribute r side).typeText_eq, htext⟩⟩
  rw [← List.count_pos_iff, count_relationshipLines hr hline]
  exact Nat.one_pos

theorem relationshipLines_directedAt (b : Blueprint) (t : Table) :
    (∀ line ∈ b.relationshipLines t, ∃ u ∈ b.attributeTargets t, b.DirectedAt t line u) ∧
      ∀ u ∈ b.attributeTargets t, ∃ line ∈ b.relationshipLines t, b.DirectedAt t line u := by
  constructor
  · intro line hline
    obtain ⟨r, hr, side, hside, rfl⟩ := exists_of_mem_relationshipLines hline
    exact ⟨r.far side, mem_attributeTargets_iff.mpr ⟨r, hr, side, hside, rfl⟩,
      (directedAt_relationshipAttribute hr hside).2⟩
  · intro u hu
    obtain ⟨r, hr, side, hside, rfl⟩ := mem_attributeTargets_iff.mp hu
    exact ⟨_, directedAt_relationshipAttribute hr hside⟩

/-! ### What is needed -/

theorem table?_far (hb : d.blueprint options = .ok b) (hr : r ∈ b.relationships) (side : Side) :
    d.table? (r.far side).id = some (r.far side) := by
  obtain ⟨hfirst, hsecond⟩ := Diagram.foundIn_of_mem_relationships hb hr
  cases side with
  | first => exact hsecond.table
  | second => exact hfirst.table

/-- Whatever a column refers to is also a target of its class: the relationship that puts the foreign key
there gives an attribute, too. -/
theorem table_mem_attributeTargets (hb : d.blueprint options = .ok b) {e : Endpoint}
    (he : e ∈ b.columnReferences t) : e.table ∈ b.attributeTargets t := by
  have hrelationships := hb
  obtain ⟨rs, _, rfl⟩ := Diagram.blueprint_eq_ok_iff.mp hb
  obtain ⟨f, _, he⟩ := List.mem_flatMap.mp he
  obtain ⟨r, hr, holding, hkey, hholder⟩ := ForeignKeys.exists_of_target?_eq_some (Option.mem_toList.mp he)
  obtain ⟨hfirst, hsecond⟩ := Diagram.foundIn_of_mem_relationships hrelationships hr
  have htable : holding.table.id = t.id := (Prod.mk.inj hholder).1
  rw [mem_attributeTargets_iff]
  rcases ClassifiedRelationship.ends_of_foreignKey?_eq_some hkey with ⟨_, rfl, rfl⟩ | ⟨_, rfl, rfl⟩
  · by_cases hself : r.first.table.id = t.id
    · -- Both ends are in one table, which stands at the first.
      have hsame : r.second.table = r.first.table := hsecond.table_eq hfirst (htable.trans hself.symm)
      exact ⟨r, hr, .first, if_pos hself, hsame⟩
    · have hside : r.side? t = some .second := by
        rw [ClassifiedRelationship.side?, if_neg hself, if_pos htable]
      exact ⟨r, hr, .second, hside, rfl⟩
  · exact ⟨r, hr, .first, if_pos htable, rfl⟩

theorem needed_not_view_iff (hb : d.blueprint options = .ok b) :
    (∀ u ∈ b.neededTables d.tables, u.isView = false) ↔
      ∀ r ∈ b.relationships, d.KeepsToClasses r := by
  constructor
  · intro hneeded r hr
    constructor
    · rintro side ⟨t, ht, hview, hside⟩
      apply hneeded
      rw [mem_neededTables_iff]
      exact Or.inl ⟨t, ht, hview, mem_attributeTargets_iff.mpr ⟨r, hr, side, hside, rfl⟩⟩
    · intro hkind
      have hjoined : ∀ e, e = r.first ∨ e = r.second → e.table.isView = false := by
        intro e he
        apply hneeded
        rw [mem_neededTables_iff]
        exact Or.inr ⟨e, List.mem_append_right _ ((mem_joined_iff hb).mpr ⟨r, hr, hkind, he⟩), rfl⟩
      exact ⟨hjoined r.first (Or.inl rfl), hjoined r.second (Or.inr rfl)⟩
  · intro hkeeps
    have htargets : ∀ t ∈ d.tables, t.isView = false → ∀ u ∈ b.attributeTargets t, u.isView = false := by
      intro t ht hview u hu
      obtain ⟨r, hr, side, hside, rfl⟩ := mem_attributeTargets_iff.mp hu
      exact (hkeeps r hr).far side ⟨t, ht, hview, hside⟩
    intro u hu
    rcases mem_neededTables_iff.mp hu with ⟨t, ht, hview, hu⟩ | ⟨e, he, rfl⟩
    · exact htargets t ht hview u hu
    · rcases List.mem_append.mp he with he | he
      · obtain ⟨t, ht, he⟩ := List.mem_flatMap.mp he
        obtain ⟨ht, hview⟩ := List.mem_filter.mp ht
        exact htargets t ht (by simpa using hview) _ (table_mem_attributeTargets hb he)
      · obtain ⟨r, hr, hkind, rfl | rfl⟩ := (mem_joined_iff hb).mp he
        · exact ((hkeeps r hr).joined hkind).1
        · exact ((hkeeps r hr).joined hkind).2

theorem mem_tables_of_mem_neededTables (hb : d.blueprint options = .ok b)
    (hu : u ∈ b.neededTables d.tables) : u ∈ d.tables := by
  suffices d.table? u.id = some u from Diagram.mem_of_table?_eq_some this
  rcases mem_neededTables_iff.mp hu with ⟨t, _, _, hu⟩ | ⟨e, he, rfl⟩
  · obtain ⟨r, hr, side, _, rfl⟩ := mem_attributeTargets_iff.mp hu
    exact table?_far hb hr side
  · exact (foundIn_of_mem_references hb he).table

end Blueprint

/-- **Declared and needed.** The attributes of a class are directed at certain tables, and the foreign keys
of classes and association tables refer to certain ends. All these tables are in the diagram, and those that
are no views have a class. So the module declares everything it needs exactly if every relationship keeps to
classes. -/
theorem Diagram.needed_tables_declared_iff {d : Diagram} {options : Options} {b : Blueprint}
    (hb : d.blueprint options = .ok b) {classes : List ModelClass}
    (hclasses : b.modelClasses d.tables = .ok classes) :
    (∀ t ∈ d.tables, t.isView = false → ∃ m ∈ classes, b.modelClass t = .ok m ∧
      (∀ line ∈ m.relationships, ∃ u ∈ b.attributeTargets t, b.DirectedAt t line u) ∧
      ∀ u ∈ b.attributeTargets t, ∃ line ∈ m.relationships, b.DirectedAt t line u) ∧
    classes.flatMap ModelClass.foreignKeyArguments =
      ((d.tables.filter (!·.isView)).flatMap b.columnReferences).map Field.foreignKeyArgument ∧
    (∀ u ∈ b.neededTables d.tables,
      u ∈ d.tables ∧ (u.isView = false → ∃ m ∈ classes, b.modelClass u = .ok m)) ∧
    ((∀ u ∈ b.neededTables d.tables, u.isView = false) ↔ ∀ r ∈ b.relationships, d.KeepsToClasses r) := by
  refine ⟨?_, Blueprint.foreignKeyArguments_of_modelClasses hclasses, ?_, Blueprint.needed_not_view_iff hb⟩
  · intro t ht hview
    obtain ⟨m, hm, hclass⟩ := Blueprint.exists_modelClass hclasses ht hview
    refine ⟨m, hm, hclass, ?_⟩
    obtain ⟨_, _, rfl⟩ := Blueprint.modelClass_eq_ok_iff.mp hclass
    exact b.relationshipLines_directedAt t
  · intro u hu
    have hmem := Blueprint.mem_tables_of_mem_neededTables hb hu
    exact ⟨hmem, Blueprint.exists_modelClass hclasses hmem⟩

/-- In the blog there are no views, so its module declares all that it needs. -/
theorem Blog.needed_tables_declared :
    ∃ classes, blueprint.modelClasses diagram.tables = .ok classes ∧
      posts ∈ blueprint.neededTables diagram.tables ∧
      ∀ u ∈ blueprint.neededTables diagram.tables, ∃ m ∈ classes, blueprint.modelClass u = .ok m := by
  obtain ⟨classes, hclasses⟩ : ∃ classes, blueprint.modelClasses diagram.tables = .ok classes :=
    ⟨_, rfl⟩
  obtain ⟨_, _, hneeded, hiff⟩ := Diagram.needed_tables_declared_iff blueprint_eq hclasses
  have hviews : ∀ t ∈ diagram.tables, t.isView = false := by decide
  have hkeeps : ∀ r ∈ blueprint.relationships, diagram.KeepsToClasses r := by
    intro r hr
    obtain ⟨hfirst, hsecond⟩ := Diagram.foundIn_of_mem_relationships blueprint_eq hr
    have hfirstView := hviews _ (Diagram.mem_of_table?_eq_some hfirst.table)
    have hsecondView := hviews _ (Diagram.mem_of_table?_eq_some hsecond.table)
    refine ⟨?_, fun _ => ⟨hfirstView, hsecondView⟩⟩
    intro side _
    cases side with
    | first => exact hsecondView
    | second => exact hfirstView
  refine ⟨classes, hclasses, by decide +kernel, ?_⟩
  intro u hu
  exact (hneeded u hu).2 (hiff.mpr hkeeps u hu)

namespace Ranking

def rankedId : Field := { id := "v1", name := "id", type := ⟨"bigint", none⟩ }

def bookId : Field := { id := "b1", name := "id", type := ⟨"bigint", none⟩, primaryKey := true }

def bookAuthor : Field := { id := "b2", name := "author_id", type := ⟨"bigint", none⟩ }

def topAuthors : Table := { id := "v", name := "top_authors", isView := true, fields := [rankedId] }

def books : Table := { id := "b", name := "books", fields := [bookId, bookAuthor] }

/-- A view of the best authors, with their books. -/
def diagram : Diagram where
  tables := [topAuthors, books]
  relationships := [⟨"v", "v1", "b", "b2", .one, .many, none, none, none⟩]

/-- The books need a class for the view, by an attribute and by a foreign key, and theirs is the only one. -/
theorem view_needed_undeclared :
    ∃ text b m line, diagram.modelsModule {} = .ok text ∧ diagram.blueprint {} = .ok b ∧
      b.modelClasses diagram.tables = .ok [m] ∧ m.name = "Books" ∧ m.relationships = [line] ∧
      line = "    top_authors: Mapped[TopAuthors] = relationship(" ++
        "\"TopAuthors\", back_populates=\"books\", lazy=\"selectin\")" ∧
      m.foreignKeyArguments = ["sa.ForeignKey(\"top_authors.id\")"] ∧
      b.neededTables diagram.tables = [topAuthors, topAuthors] ∧ topAuthors.isView = true :=
  ⟨_, _, _, _, rfl, rfl, rfl, by decide, rfl, by decide, by decide, by decide +kernel, rfl⟩

end Ranking

end SchemaScribe
