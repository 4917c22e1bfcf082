import SchemaScribe.Proofs.DeclaredSchema
import SchemaScribe.Proofs.DialectImports

/-!
# Tables do not interfere

A blueprint knows the tables of a diagram only through the look-ups that its relationships make. Tables that
are not looked up can come and go, and if every id belongs to one table, the order of the tables does not
matter either. The blueprint is then the same, so the classes are too, each in the place of its table.
-/

namespace SchemaScribe

/-- The tables that a relationship names. -/
def Relationship.tableIds (r : Relationship) : List LooseText :=
  [r.sourceTableId, r.targetTableId]

def Diagram.withTables (d : Diagram) (tables : List Table) : Diagram :=
  { d with tables := tables }

namespace Diagram

variable {d d' : Diagram} {options : Options} {b : Blueprint} {tables front back : List Table}

/-! ### What classification reads -/

theorem endpoint_congr {tableId : LooseText} (h : d'.table? tableId = d.table? tableId)
    (relationshipId : Option String) (fieldId : LooseText) :
    d'.endpoint relationshipId tableId fieldId = d.endpoint relationshipId tableId fieldId := by
  unfold endpoint
  rw [h]

theorem classify_congr {r : Relationship} (h : ∀ id ∈ r.tableIds, d'.table? id = d.table? id)
    (ordinal : Nat) : d'.classify r ordinal = d.classify r ordinal := by
  have hsource : d'.table? r.sourceTableId = d.table? r.sourceTableId :=
    h _ List.mem_cons_self
  have htarget : d'.table? r.targetTableId = d.table? r.targetTableId :=
    h _ (List.mem_cons_of_mem _ List.mem_cons_self)
  unfold classify endpoints
  rw [endpoint_congr hsource, endpoint_congr htarget]

theorem classifyFrom_congr {rs : List Relationship}
    (h : ∀ r ∈ rs, ∀ id ∈ r.tableIds, d'.table? id = d.table? id) (ordinal : Nat) :
    d'.classifyFrom ordinal rs = d.classifyFrom ordinal rs := by
  induction rs generalizing ordinal with
  | nil => rfl
  | cons r rs ih =>
      rw [classifyFrom, classifyFrom, classify_congr (h r List.mem_cons_self),
        ih fun s hs => h s (List.mem_cons_of_mem _ hs)]

/-- Other tables make no difference to a blueprint if the look-ups find the same among them. -/
theorem blueprint_withTables
    (h : ∀ r ∈ d.relationships, ∀ id ∈ r.tableIds, (d.withTables tables).table? id = d.table? id)
    (options : Options) : (d.withTables tables).blueprint options = d.blueprint options := by
  have hclassify : (d.withTables tables).classifyAll = d.classifyAll := classifyFrom_congr h 0
  have hblueprint : Blueprint.ofRelationships (d.withTables tables) options =
      Blueprint.ofRelationships d options := rfl
  unfold blueprint
  rw [hclassify, hblueprint]

/-! ### Look-ups among other tables -/

theorem table?_withTables_insert (htables : d.tables = front ++ back) {t : Table} {id : LooseText}
    (hid : t.id ≠ id) : (d.withTables (front ++ t :: back)).table? id = d.table? id := by
  unfold table? withTables
  rw [htables, List.find?_append, List.find?_append, List.find?_cons_of_neg (by simpa using hid)]

theorem table?_eq_some_iff (hdistinct : (d.tables.map (·.id)).Nodup) {id : LooseText} {t : Table} :
    d.table? id = some t ↔ t ∈ d.tables ∧ t.id = id := by
  constructor
  · intro h
    exact ⟨mem_of_table?_eq_some h, id_of_table?_eq_some h⟩
  · rintro ⟨ht, rfl⟩
    obtain ⟨u, hu⟩ : ∃ u, d.table? t.id = some u := by
      rw [← Option.isSome_iff_exists, table?, List.find?_isSome]
      exact ⟨t, ht, by simp⟩
    rw [hu, List.inj_on_of_nodup_map hdistinct (mem_of_table?_eq_some hu) ht (id_of_table?_eq_some hu)]

theorem table?_withTables_perm (hdistinct : (d.tables.map (·.id)).Nodup) (hperm : d.tables.Perm tables)
    (id : LooseText) : (d.withTables tables).table? id = d.table? id := by
  have hdistinct' : ((d.withTables tables).tables.map (·.id)).Nodup := (hperm.map _).nodup hdistinct
  ext t
  rw [table?_eq_some_iff hdistinct, table?_eq_some_iff hdistinct', hperm.mem_iff]
  rfl

theorem exists_table_of_mem_tableIds (hb : d.blueprint options = .ok b) {r : Relationship}
    (hr : r ∈ d.relationships) {id : LooseText} (hid : id ∈ r.tableIds) : ∃ t ∈ d.tables, t.id = id := by
  obtain ⟨c, _, _, hc⟩ := exists_classified hb hr
  obtain ⟨source, target, hends, _⟩ := classify_eq_ok_iff.mp hc
  obtain ⟨hsource, htarget⟩ := endpoints_eq_ok_iff.mp hends
  have hfound : ∀ {tableId fieldId : LooseText} {e : Endpoint},
      d.endpoint r.id tableId fieldId = .ok e → ∃ t ∈ d.tables, t.id = tableId := by
    intro tableId fieldId e he
    have htable := (endpoint_eq_ok_iff.mp he).1
    exact ⟨e.table, mem_of_table?_eq_some htable, id_of_table?_eq_some htable⟩
  rcases List.mem_cons.mp hid with rfl | hid
  · exact hfound hsource
  · obtain rfl := List.mem_singleton.mp hid
    exact hfound htarget

/-! ### Blueprints among other tables -/

theorem blueprint_insert (hb : d.blueprint options = .ok b) (htables : d.tables = front ++ back)
    {t : Table} (hid : ∀ u ∈ d.tables, u.id ≠ t.id) :
    (d.withTables (front ++ t :: back)).blueprint options = .ok b := by
  rw [← hb]
  apply blueprint_withTables
  intro r hr id hmem
  -- The blueprint was made without `t`, so what a relationship names is another table.
  obtain ⟨u, hu, rfl⟩ := exists_table_of_mem_tableIds hb hr hmem
  exact table?_withTables_insert htables (hid u hu).symm

theorem blueprint_perm (hb : d.blueprint options = .ok b) (hdistinct : (d.tables.map (·.id)).Nodup)
    (hperm : d.tables.Perm tables) : (d.withTables tables).blueprint options = .ok b := by
  rw [← hb]
  apply blueprint_withTables
  intro r _ id _
  exact table?_withTables_perm hdistinct hperm id

end Diagram

/-! ### Classes among other tables -/

namespace Blueprint

variable {b : Blueprint} {tables tables' front back : List Table} {classes before after : List ModelClass}

theorem modelClasses_append_eq_ok_iff :
    b.modelClasses (front ++ back) = .ok classes ↔
      ∃ before after, b.modelClasses front = .ok before ∧ b.modelClasses back = .ok after ∧
        classes = before ++ after := by
  unfold modelClasses
  rw [List.filter_append, mapM_append_eq_ok_iff]

theorem modelClasses_insert (hbefore : b.modelClasses front = .ok before)
    (hafter : b.modelClasses back = .ok after) (t : Table) :
    b.modelClasses (front ++ t :: back) =
      if t.isView then .ok (before ++ after) else (b.modelClass t).map fun m => before ++ m :: after := by
  cases hview : t.isView with
  | true =>
      rw [if_pos rfl, modelClasses, List.filter_append, List.filter_cons_of_neg (by simp [hview]),
        mapM_append_eq_ok_iff]
      exact ⟨before, after, hbefore, hafter, rfl⟩
  | false =>
      rw [if_neg Bool.false_ne_true, modelClasses, List.filter_append,
        List.filter_cons_of_pos (by simp [hview])]
      exact mapM_append_cons hbefore hafter t

theorem exists_perm_modelClasses (hperm : tables.Perm tables') (h : b.modelClasses tables = .ok classes) :
    ∃ classes', b.modelClasses tables' = .ok classes' ∧ classes.Perm classes' :=
  exists_perm_mapM (hperm.filter _) h

end Blueprint

/-! ### The text of a module -/

/-- A module with at most one line that imports from a dialect. -/
def ModelsModule.withImport (line : Option String) (associations : List AssociationTable)
    (classes : List ModelClass) : String :=
  "\n".intercalate (commonImports ++ line.toList) ++ "\n\n\n" ++ baseClass ++
    associationPart associations ++ classPart classes ++ "\n\n"

namespace Blueprint

variable {d : Diagram} {options : Options} {b : Blueprint} {tables : List Table}
  {classes classes' : List ModelClass}

/-- The line by which classes import what they need from the dialect of the database. -/
def dialectImport? (b : Blueprint) (classes : List ModelClass) : Option String :=
  b.database.dialect?.bind (DialectSymbol.importLine? (classes.flatMap (·.symbols)))

theorem dialectImport?_perm (hperm : classes.Perm classes') :
    b.dialectImport? classes = b.dialectImport? classes' := by
  unfold dialectImport?
  congr 1
  funext dialect
  rw [DialectSymbol.importLine?_eq, DialectSymbol.importLine?_eq,
    DialectSymbol.namesOf_congr fun s => (hperm.flatMap_right _).mem_iff]

theorem assemble_eq_withImport (hb : d.blueprint options = .ok b)
    (hclasses : b.modelClasses tables = .ok classes) :
    ModelsModule.assemble b.associations classes =
      ModelsModule.withImport (b.dialectImport? classes) b.associations classes := by
  have hdatabase : b.database = d.databaseType := by
    obtain ⟨_, _, rfl⟩ := Diagram.blueprint_eq_ok_iff.mp hb
    rfl
  have hlines := DialectSymbol.importLines_eq_of_belongsTo (belongsTo_of_mem_flatMap_symbols hb hclasses)
  rw [ModelsModule.assemble_eq, ModelsModule.header, ModelsModule.importBlock, hlines,
    ModelsModule.withImport, dialectImport?, hdatabase]

end Blueprint

namespace Diagram

variable {d : Diagram} {options : Options} {b : Blueprint} {tables : List Table}

/-- With the same blueprint, a module depends on the tables by their classes alone. -/
theorem modelsModule_withTables (hb : (d.withTables tables).blueprint options = .ok b)
    (htables : tables ≠ []) :
    (d.withTables tables).modelsModule options =
      match b.modelClasses tables with
      | .error e => .error (.oversized e)
      | .ok classes => .ok (ModelsModule.withImport (b.dialectImport? classes) b.associations classes) := by
  unfold modelsModule
  rw [if_neg (by simpa [withTables] using htables), hb]
  cases hclasses : b.modelClasses tables with
  | error e => simp [withTables, hclasses]
  | ok classes => simp [withTables, hclasses, Blueprint.assemble_eq_withImport hb hclasses]

/-- **Tables do not interfere.** A table with a new id, wherever it is inserted, leaves the association tables
and the other classes of a module as they are. Its own class stands where the table does, and of the header
only the line that imports from a dialect may change. A view changes nothing. If ids are distinct, the tables
in any order have the same header and the same association tables, and classes in the order of the tables. -/
theorem tables_do_not_interfere {text : String} (htables : d.tables ≠ [])
    (htext : d.modelsModule options = .ok text) :
    ∃ b classes, d.blueprint options = .ok b ∧ b.modelClasses d.tables = .ok classes ∧
      text = ModelsModule.withImport (b.dialectImport? classes) b.associations classes ∧
      (∀ front back t, d.tables = front ++ back → (∀ u ∈ d.tables, u.id ≠ t.id) →
        ∃ before after, b.modelClasses front = .ok before ∧ b.modelClasses back = .ok after ∧
          classes = before ++ after ∧ (d.withTables (front ++ t :: back)).blueprint options = .ok b ∧
          (d.withTables (front ++ t :: back)).modelsModule options =
            if t.isView then .ok text
            else
              match b.modelClass t with
              | .error e => .error (.oversized e)
              | .ok m => .ok (ModelsModule.withImport (b.dialectImport? (before ++ m :: after))
                  b.associations (before ++ m :: after))) ∧
      ((d.tables.map (·.id)).Nodup → ∀ tables, d.tables.Perm tables →
        ∃ classes', b.modelClasses tables = .ok classes' ∧ classes.Perm classes' ∧
          (d.withTables tables).blueprint options = .ok b ∧
          (d.withTables tables).modelsModule options =
            .ok (ModelsModule.withImport (b.dialectImport? classes) b.associations classes')) := by
  obtain ⟨b, classes, hb, hclasses, rfl⟩ := (modelsModule_eq_ok_iff htables).mp htext
  rw [Blueprint.assemble_eq_withImport hb hclasses]
  refine ⟨b, classes, hb, hclasses, rfl, ?_, ?_⟩
  · intro front back t hsplit hid
    rw [hsplit] at hclasses
    obtain ⟨before, after, hbefore, hafter, rfl⟩ := Blueprint.modelClasses_append_eq_ok_iff.mp hclasses
    have hb' := blueprint_insert hb hsplit hid
    refine ⟨before, after, hbefore, hafter, rfl, hb', ?_⟩
    rw [modelsModule_withTables hb' (by simp), Blueprint.modelClasses_insert hbefore hafter]
    cases t.isView with
    | true => rfl
    | false => cases b.modelClass t <;> rfl
  · intro hdistinct tables hperm
    obtain ⟨classes', hclasses', hpermClasses⟩ := Blueprint.exists_perm_modelClasses hperm hclasses
    have hb' := blueprint_perm hb hdistinct hperm
    have hne : tables ≠ [] := by
      rintro rfl
      exact htables hperm.eq_nil
    refine ⟨classes', hclasses', hpermClasses, hb', ?_⟩
    rw [modelsModule_withTables hb' hne, hclasses', Blueprint.dialectImport?_perm hpermClasses]

end Diagram

namespace Library

/-- With a view behind its tables the library has the same module. A table in front of them is the first
class, and tables in reverse have their classes in reverse. -/
theorem catalogue_added :
    ∃ text b authors books items, diagram.modelsModule {} = .ok text ∧ diagram.blueprint {} = .ok b ∧
      b.modelClasses diagram.tables = .ok [authors, books] ∧ b.modelClass Catalogue.items = .ok items ∧
      (diagram.withTables (diagram.tables ++ [Catalogue.hosts])).modelsModule {} = .ok text ∧
      (diagram.withTables (Catalogue.items :: diagram.tables)).modelsModule {} =
        .ok (ModelsModule.withImport (b.dialectImport? [items, authors, books]) b.associations
          [items, authors, books]) ∧
      (diagram.withTables diagram.tables.reverse).modelsModule {} =
        .ok (ModelsModule.withImport (b.dialectImport? [authors, books]) b.associations
          [books, authors]) := by
  obtain ⟨text, htext⟩ : ∃ text, diagram.modelsModule {} = .ok text := ⟨_, rfl⟩
  obtain ⟨b, classes, hb, hclasses, _, hinsert, hperm⟩ :=
    Diagram.tables_do_not_interfere (by decide) htext
  obtain ⟨_, _, _, _, _, _, hview⟩ := hinsert diagram.tables [] Catalogue.hosts (by simp) (by decide)
  obtain ⟨before, after, hbefore, hafter, _, _, htable⟩ :=
    hinsert [] diagram.tables Catalogue.items (by simp) (by decide)
  obtain ⟨classes', hclasses', _, _, hreverse⟩ :=
    hperm (by decide) diagram.tables.reverse diagram.tables.reverse_perm.symm
  obtain ⟨items, hitems⟩ : ∃ items, b.modelClass Catalogue.items = .ok items := by
    obtain rfl := Except.ok.inj hb
    exact ⟨_, rfl⟩
  rw [hitems] at htable
  obtain rfl := Except.ok.inj hb
  obtain rfl := Except.ok.inj hclasses
  obtain rfl := Except.ok.inj hclasses'
  obtain rfl := Except.ok.inj hbefore
  obtain rfl := Except.ok.inj hafter
  exact ⟨text, _, _, _, items, htext, rfl, rfl, hitems, hview, htable, hreverse⟩

end Library

end SchemaScribe
