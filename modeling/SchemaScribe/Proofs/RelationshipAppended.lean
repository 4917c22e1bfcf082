import SchemaScribe.Proofs.KeyHolders
import SchemaScribe.Proofs.RelationshipLine
import SchemaScribe.Proofs.TableIndependence

/-!
# Appending a relationship

A relationship behind all others takes part in three collections. Foreign keys keep the last claim of a
field, the index of association tables keeps the first table of a pair, and a class keeps the first of
repeated lines. So what the others had is still there, except for the foreign key of one field. The classes
of tables that the relationship does not name are the same as before.
-/

namespace SchemaScribe

open Source

/-- The diagram with a relationship behind all others. -/
def Diagram.appending (d : Diagram) (r : Relationship) : Diagram :=
  { d with relationships := d.relationships ++ [r] }

/-! ### Classification -/

namespace Diagram

variable {d : Diagram} {r : Relationship} {ordinal : Nat} {c : ClassifiedRelationship}

theorem classifyFrom_append_singleton {rs : List Relationship} {cs : List ClassifiedRelationship}
    (hrs : d.classifyFrom ordinal rs = .ok cs) (hr : d.classify r (ordinal + rs.length) = .ok c) :
    d.classifyFrom ordinal (rs ++ [r]) = .ok (cs ++ [c]) := by
  induction rs generalizing ordinal cs with
  | nil =>
      obtain rfl := Except.ok.inj hrs
      exact classifyFrom_cons_eq_ok_iff.mpr ⟨c, [], hr, rfl, rfl⟩
  | cons s rs ih =>
      obtain ⟨head, rest, hhead, hrest, rfl⟩ := classifyFrom_cons_eq_ok_iff.mp hrs
      have hr' : d.classify r (ordinal + 1 + rs.length) = .ok c := by
        rwa [Nat.add_right_comm]
      exact classifyFrom_cons_eq_ok_iff.mpr ⟨head, rest ++ [c], hhead, ih hrest hr', rfl⟩

theorem blueprint_appending {rs : List ClassifiedRelationship} (hrs : d.classifyAll = .ok rs)
    (hc : d.classify r d.relationships.length = .ok c) (options : Options) :
    (d.appending r).blueprint options = .ok (.ofRelationships d options (rs ++ [c])) := by
  have hlength : d.classify r (0 + d.relationships.length) = .ok c := by
    rwa [Nat.zero_add]
  have hclassify : (d.appending r).classifyAll = .ok (rs ++ [c]) := by
    have htable : ∀ id, (d.appending r).table? id = d.table? id := fun _ => rfl
    rw [← classifyFrom_append_singleton hrs hlength]
    exact classifyFrom_congr (fun _ _ id _ => htable id) 0
  exact blueprint_eq_ok_iff.mpr ⟨rs ++ [c], hclassify, rfl⟩

theorem touches_iff_of_classify (h : d.classify r ordinal = .ok c) {t : Table} :
    c.touches t = true ↔ t.id ∈ r.tableIds := by
  obtain ⟨source, target, hends, rfl⟩ := classify_eq_ok_iff.mp h
  obtain ⟨hsource, htarget⟩ := endpoints_eq_ok_iff.mp hends
  have hsourceTable := (foundIn_of_endpoint_eq_ok hsource).2.1
  have htargetTable := (foundIn_of_endpoint_eq_ok htarget).2.1
  unfold ClassifiedRelationship.touches ClassifiedRelationship.ofEndpoints Relationship.tableIds
  cases r.sourceCardinality <;> cases r.targetCardinality <;>
    simp [hsourceTable, htargetTable, eq_comm (b := t.id), or_comm]

end Diagram

theorem Relationship.fst_mem_tableIds {r : Relationship} {ids : LooseText × LooseText}
    (h : r.keyHolder? = some ids) : ids.1 ∈ r.tableIds := by
  unfold keyHolder? at h
  unfold tableIds
  cases hsource : r.sourceCardinality <;> cases htarget : r.targetCardinality <;>
    simp [hsource, htarget] at h <;> simp [← h]

/-! ### Foreign keys -/

namespace ForeignKeys

variable {rs : List ClassifiedRelationship} {c : ClassifiedRelationship} {t : Table} {f : Field}

theorem claims_append_singleton (rs : List ClassifiedRelationship) (c : ClassifiedRelationship) :
    claims (rs ++ [c]) = claims rs ++ c.claim?.toList := by
  rw [claims_eq, claims_eq, filterMap_append_singleton]

theorem target?_append_of_claim {e : Endpoint} (h : c.claim? = some ((t.id, f.id), e)) :
    (ofRelationships (rs ++ [c])).target? t f = some e := by
  rw [target?, ofRelationships, claims_append_singleton, h, Option.toList_some,
    Entries.ofList_append_singleton, Entries.lookup_set, if_pos rfl]

theorem target?_append_of_ne (h : c.claim?.map Prod.fst ≠ some (t.id, f.id)) :
    (ofRelationships (rs ++ [c])).target? t f = (ofRelationships rs).target? t f := by
  rw [target?, target?, ofRelationships, ofRelationships, claims_append_singleton]
  cases hclaim : c.claim? with
  | none => rw [Option.toList_none, List.append_nil]
  | some entry =>
      have hne : (t.id, f.id) ≠ entry.1 := by
        intro heq
        rw [hclaim, heq] at h
        exact h rfl
      rw [Option.toList_some, Entries.ofList_append_singleton, Entries.lookup_set, if_neg hne]

end ForeignKeys

/-! ### Association tables and lines -/

theorem AssociationTable.ofRelationships_append_singleton (db : DatabaseType)
    (rs : List ClassifiedRelationship) (c : ClassifiedRelationship) :
    ofRelationships db (rs ++ [c]) = ofRelationships db rs ++ (ofRelationship? db c).toList :=
  filterMap_append_singleton _ rs c

namespace Blueprint

variable {d : Diagram} {options : Options} {rs : List ClassifiedRelationship} {c s : ClassifiedRelationship}
  {t : Table}

/-- A relationship that has found its association table still finds it when there are more. -/
theorem associationFor?_append (hrs : d.classifyAll = .ok rs) (hs : s ∈ rs) (hkind : s.kind = .manyToMany) :
    (ofRelationships d options (rs ++ [c])).associationFor? s =
      (ofRelationships d options rs).associationFor? s := by
  obtain ⟨_, a, _, _, hfound⟩ := AssociationTable.exists_forPair?_ofRelationships d.databaseType
    (Diagram.pairwise_ordinal_of_classifyAll hrs) hs hkind
  -- The index plays no part in what is found, and in the whole list the new table is the last.
  have hfound' : AssociationTable.forPair? (AssociationTable.ofRelationships d.databaseType (rs ++ [c]))
      s.tablePair = some a := by
    unfold AssociationTable.forPair? at hfound ⊢
    rw [AssociationTable.ofRelationships_append_singleton, List.find?_append, hfound, Option.some_or]
  unfold associationFor? ofRelationships
  rw [AssociationTable.forPair?_firstPerPair List.not_mem_nil,
    AssociationTable.forPair?_firstPerPair List.not_mem_nil, hfound, hfound']

theorem filterMap_relationshipLine?_append (hrs : d.classifyAll = .ok rs) :
    rs.filterMap ((ofRelationships d options (rs ++ [c])).relationshipLine? t) =
      rs.filterMap ((ofRelationships d options rs).relationshipLine? t) := by
  apply List.filterMap_congr
  intro s hs
  have hcascade : (ofRelationships d options (rs ++ [c])).cascadeFor s =
      (ofRelationships d options rs).cascadeFor s := rfl
  unfold relationshipLine?
  congr 1
  funext side
  exact congrArg _ (relationshipAttribute_congr rfl rfl rfl (fun _ => hcascade)
    (associationFor?_append hrs hs) side)

/-- A table has one more line at most, behind the others, and none if it is not at an end. -/
theorem relationshipLines_append (hrs : d.classifyAll = .ok rs) (options : Options)
    (c : ClassifiedRelationship) (t : Table) :
    ∃ line : Option String,
      (ofRelationships d options (rs ++ [c])).relationshipLines t =
        (ofRelationships d options rs).relationshipLines t ++ line.toList ∧
      (c.touches t = false → line = none) := by
  have hlines : (ofRelationships d options (rs ++ [c])).relationshipLines t =
      (rs.filterMap ((ofRelationships d options rs).relationshipLine? t) ++
        ((ofRelationships d options (rs ++ [c])).relationshipLine? t c).toList).eraseDups := by
    rw [relationshipLines_eq, ← filterMap_relationshipLine?_append hrs, ← filterMap_append_singleton]
    rfl
  have hbefore : (ofRelationships d options rs).relationshipLines t =
      (rs.filterMap ((ofRelationships d options rs).relationshipLine? t)).eraseDups :=
    relationshipLines_eq _ t
  rw [hlines, hbefore]
  -- The first of repeated lines is kept, so only whether the new line is among the others matters.
  cases hline : (ofRelationships d options (rs ++ [c])).relationshipLine? t c with
  | none => exact ⟨none, by simp, fun _ => rfl⟩
  | some line =>
      have htouches : c.touches t ≠ false := by
        obtain ⟨side, hside, _⟩ := relationshipLine?_eq_some_iff.mp hline
        rw [Bool.ne_false_iff, ← ClassifiedRelationship.isSome_side?_iff, hside]
        rfl
      by_cases hmem : line ∈ rs.filterMap ((ofRelationships d options rs).relationshipLine? t)
      · refine ⟨none, ?_, fun _ => rfl⟩
        rw [Option.toList_some, eraseDups_append_singleton_of_mem hmem, Option.toList_none, List.append_nil]
      · refine ⟨some line, ?_, fun h => absurd h htouches⟩
        rw [Option.toList_some, eraseDups_append_singleton_of_not_mem hmem]

end Blueprint

/-! ### Columns -/

/-- Columns of one field that refer to different ends. Both have the reference in the same place and the index
in the same place, if they have them, and share everything else. -/
structure Column.KeyReplaced (c c' : Column) (key key' : Option Endpoint) : Prop where
  attributeName : c'.attributeName = c.attributeName
  type : c'.type = c.type
  comments : c'.comments = c.comments
  symbol : c'.symbol = c.symbol
  arguments : ∃ type, c.arguments = type :: key.toList.map Field.foreignKeyArgument ∧
    c'.arguments = type :: key'.toList.map Field.foreignKeyArgument
  keywords : ∃ front back, c.keywords = front ++ (key.toList.map fun _ => ⟨"index", "True"⟩) ++ back ∧
    c'.keywords = front ++ (key'.toList.map fun _ => ⟨"index", "True"⟩) ++ back

namespace Field

variable {f : Field} {types : TypeContext} {compositeKey : Bool} {key key' : Option Endpoint}

theorem exists_keywords_eq (f : Field) (compositeKey : Bool) :
    ∃ front back, ∀ key : Option Endpoint,
      f.keywords compositeKey key = front ++ (key.toList.map fun _ => ⟨"index", "True"⟩) ++ back := by
  refine ⟨(if f.primaryKey && !compositeKey then [⟨"primary_key", "True"⟩] else []) ++
      (if f.increment then [⟨"autoincrement", "True"⟩] else []) ++
      (if f.nullable then [] else [⟨"nullable", "False"⟩]) ++
      (if f.unique && !f.primaryKey then [⟨"unique", "True"⟩] else []) ++ f.defaultKeywords,
    if f.isUuid then [⟨"default", "uuid.uuid4"⟩] else [], ?_⟩
  intro key
  cases key <;> rfl

theorem exists_column_keyReplaced {c : Column} (h : f.column types compositeKey key = .ok c)
    (key' : Option Endpoint) :
    ∃ c', f.column types compositeKey key' = .ok c' ∧ c.KeyReplaced c' key key' := by
  obtain ⟨type, htype, rfl⟩ := column_eq_ok_iff.mp h
  obtain ⟨front, back, hkeywords⟩ := f.exists_keywords_eq compositeKey
  refine ⟨_, column_eq_ok_iff.mpr ⟨type, htype, rfl⟩, rfl, rfl, rfl, rfl, ⟨type, rfl, rfl⟩, front, back, ?_, ?_⟩
  · exact hkeywords key
  · exact hkeywords key'

end Field

/-! ### Classes -/

namespace Diagram

/-- How the column of a field may differ with `r` appended: if `r` has its foreign key there, the column refers
to the opposite end of `r`, and otherwise it is the same. -/
def ColumnAppended (d : Diagram) (r : Relationship) (t : Table) (f : Field) (c c' : Column) : Prop :=
  if r.keyHolder? = some (t.id, f.id) then
    ∃ key target, d.endpoint r.id r.keyTarget.1 r.keyTarget.2 = .ok target ∧
      c.KeyReplaced c' key (some target)
  else c' = c

/-- How the class of a table may differ with `r` appended: in the foreign key of a field, and by one more line
at the end. -/
structure ClassAppended (d : Diagram) (r : Relationship) (t : Table) (m m' : ModelClass) : Prop where
  name : m'.name = m.name
  tableName : m'.tableName = m.tableName
  arguments : m'.arguments = m.arguments
  doc : m'.doc = m.doc
  columnCount : m'.columns.length = m.columns.length
  columns : List.Forall₂ (fun f cs => d.ColumnAppended r t f cs.1 cs.2) t.fields (m.columns.zip m'.columns)
  relationships : ∃ line : Option String, m'.relationships = m.relationships ++ line.toList

end Diagram

namespace Blueprint

variable {d : Diagram} {options : Options} {r : Relationship} {rs : List ClassifiedRelationship}
  {c : ClassifiedRelationship} {ordinal : Nat} {t : Table} {f : Field} {m : ModelClass}

theorem exists_columnAppended (hc : d.classify r ordinal = .ok c) {types : TypeContext} {compositeKey : Bool}
    {column : Column}
    (h : f.column types compositeKey ((ForeignKeys.ofRelationships rs).target? t f) = .ok column) :
    ∃ column', f.column types compositeKey ((ForeignKeys.ofRelationships (rs ++ [c])).target? t f) =
      .ok column' ∧ d.ColumnAppended r t f column column' := by
  obtain ⟨hholder, hend⟩ := Diagram.claim?_of_classify hc
  unfold Diagram.ColumnAppended
  by_cases hkey : r.keyHolder? = some (t.id, f.id)
  · rw [hkey, Option.map_eq_some_iff] at hholder
    obtain ⟨⟨ids, target⟩, hclaim, rfl⟩ := hholder
    obtain ⟨column', hcolumn', hreplaced⟩ := Field.exists_column_keyReplaced h (some target)
    refine ⟨column', ?_, ?_⟩
    · rw [ForeignKeys.target?_append_of_claim hclaim, hcolumn']
    · rw [if_pos hkey]
      exact ⟨_, target, hend _ hclaim, hreplaced⟩
  · refine ⟨column, ?_, ?_⟩
    · rw [ForeignKeys.target?_append_of_ne (hholder ▸ hkey), h]
    · rw [if_neg hkey]

theorem exists_classAppended (hrs : d.classifyAll = .ok rs) (hc : d.classify r ordinal = .ok c)
    (hm : (ofRelationships d options rs).modelClass t = .ok m) :
    ∃ m', (ofRelationships d options (rs ++ [c])).modelClass t = .ok m' ∧ d.ClassAppended r t m m' := by
  obtain ⟨columns, hcolumns, rfl⟩ := modelClass_eq_ok_iff.mp hm
  obtain ⟨columns', hcolumns', hcount, hall⟩ :=
    exists_forall₂_zip (mapM_eq_ok_iff.mp hcolumns) fun _ _ => exists_columnAppended hc
  obtain ⟨line, hlines, _⟩ := relationshipLines_append hrs options c t
  exact ⟨_, modelClass_eq_ok_iff.mpr ⟨columns', mapM_eq_ok_iff.mpr hcolumns', rfl⟩, rfl, rfl, rfl, rfl,
    hcount, hall, line, hlines⟩

theorem modelClass_append_of_not_mem (hrs : d.classifyAll = .ok rs) (hc : d.classify r ordinal = .ok c)
    (hid : t.id ∉ r.tableIds) :
    (ofRelationships d options (rs ++ [c])).modelClass t = (ofRelationships d options rs).modelClass t := by
  have htouches : c.touches t = false := by
    rw [Bool.eq_false_iff, Ne, Diagram.touches_iff_of_classify hc]
    exact hid
  obtain ⟨line, hlines, hnone⟩ := relationshipLines_append hrs options c t
  rw [hnone htouches, Option.toList_none, List.append_nil] at hlines
  -- The holder of a foreign key is at an end, too, so no field of the table is claimed.
  have hkeys : ∀ f, (ForeignKeys.ofRelationships (rs ++ [c])).target? t f =
      (ForeignKeys.ofRelationships rs).target? t f := by
    intro f
    apply ForeignKeys.target?_append_of_ne
    rw [(Diagram.claim?_of_classify hc).1]
    intro hholder
    exact hid (Relationship.fst_mem_tableIds hholder)
  have hcolumns : (ofRelationships d options (rs ++ [c])).columns t =
      (ofRelationships d options rs).columns t := by
    unfold columns
    congr 1
    funext f
    exact congrArg _ (hkeys f)
  unfold modelClass
  rw [hcolumns, hlines]
  rfl

theorem exists_classesAppended (hrs : d.classifyAll = .ok rs) (hc : d.classify r ordinal = .ok c)
    {tables : List Table} {classes : List ModelClass}
    (hclasses : (ofRelationships d options rs).modelClasses tables = .ok classes) :
    ∃ classes', (ofRelationships d options (rs ++ [c])).modelClasses tables = .ok classes' ∧
      classes'.length = classes.length ∧
      List.Forall₂ (fun t ms => (t.id ∉ r.tableIds → ms.2 = ms.1) ∧ d.ClassAppended r t ms.1 ms.2)
        (tables.filter (!·.isView)) (classes.zip classes') := by
  have hnext : ∀ t m, (ofRelationships d options rs).modelClass t = .ok m →
      ∃ m', (ofRelationships d options (rs ++ [c])).modelClass t = .ok m' ∧
        (t.id ∉ r.tableIds → m' = m) ∧ d.ClassAppended r t m m' := by
    intro t m hm
    obtain ⟨m', hm', happended⟩ := exists_classAppended hrs hc hm
    refine ⟨m', hm', ?_, happended⟩
    intro hid
    rw [modelClass_append_of_not_mem hrs hc hid, hm] at hm'
    exact (Except.ok.inj hm').symm
  obtain ⟨classes', hclasses', hcount, hall⟩ := exists_forall₂_zip (mapM_eq_ok_iff.mp hclasses) hnext
  exact ⟨classes', mapM_eq_ok_iff.mpr hclasses', hcount, hall⟩

/-! ### The header -/

theorem symbols_of_modelClass {b : Blueprint} (h : b.modelClass t = .ok m) :
    m.symbols = (t.fields.filterMap fun f => (b.types.columnType f.type.name).symbol?).eraseDups := by
  obtain ⟨columns, hcolumns, rfl⟩ := modelClass_eq_ok_iff.mp h
  unfold ModelClass.symbols
  rw [List.filterMap_eq_flatMap_toList, List.filterMap_eq_flatMap_toList]
  congr 1
  apply flatMap_eq_of_mapM_eq_ok hcolumns
  intro f column hcolumn
  obtain ⟨_, _, rfl⟩ := Field.column_eq_ok_iff.mp hcolumn
  rfl

/-- What classes import depends on the tables and the types of the diagram, not on its relationships. -/
theorem header_eq {b b' : Blueprint} (htypes : b'.types = b.types) {tables : List Table}
    {classes classes' : List ModelClass} (hclasses : b.modelClasses tables = .ok classes)
    (hclasses' : b'.modelClasses tables = .ok classes') :
    ModelsModule.header classes' = ModelsModule.header classes := by
  have hsymbols : classes'.flatMap (·.symbols) = classes.flatMap (·.symbols) := by
    rw [flatMap_eq_of_mapM_eq_ok hclasses fun _ _ => symbols_of_modelClass, ← htypes]
    exact flatMap_eq_of_mapM_eq_ok hclasses' fun _ _ => symbols_of_modelClass
  unfold ModelsModule.header
  rw [hsymbols]

end Blueprint

/-- **Appending a relationship.** Generation still succeeds, with the same header and the same association
tables in the same places, and at most one more behind them. Tables that the relationship does not name have
the same class. The class of a table that it names keeps everything but the foreign key of the field that
holds the one of the relationship, and has at most one more line at its end. -/
theorem Diagram.relationship_appended {d : Diagram} {options : Options} {text : String}
    (htables : d.tables ≠ []) (htext : d.modelsModule options = .ok text) {r : Relationship}
    {ends : Endpoint × Endpoint} (hends : d.endpoints r = .ok ends) :
    ∃ b b' classes classes', ∃ association : Option AssociationTable,
      d.blueprint options = .ok b ∧ (d.appending r).blueprint options = .ok b' ∧
      b.modelClasses d.tables = .ok classes ∧ b'.modelClasses d.tables = .ok classes' ∧
      text = ModelsModule.header classes ++ ModelsModule.associationPart b.associations ++
        ModelsModule.classPart classes ++ "\n\n" ∧
      b'.associations = b.associations ++ association.toList ∧
      (d.appending r).modelsModule options =
        .ok (ModelsModule.header classes ++ ModelsModule.associationPart b.associations ++
          ModelsModule.associationPart association.toList ++ ModelsModule.classPart classes' ++ "\n\n") ∧
      classes'.length = classes.length ∧
      List.Forall₂ (fun t ms => (t.id ∉ r.tableIds → ms.2 = ms.1) ∧ d.ClassAppended r t ms.1 ms.2)
        (d.tables.filter (!·.isView)) (classes.zip classes') := by
  obtain ⟨b, classes, hb, hclasses, rfl⟩ := (modelsModule_eq_ok_iff htables).mp htext
  obtain ⟨rs, hrs, rfl⟩ := blueprint_eq_ok_iff.mp hb
  obtain ⟨c, hc⟩ : ∃ c, d.classify r d.relationships.length = .ok c :=
    ⟨_, classify_eq_ok_iff.mpr ⟨ends.1, ends.2, hends, rfl⟩⟩
  obtain ⟨classes', hclasses', hcount, hall⟩ := Blueprint.exists_classesAppended hrs hc hclasses
  have hb' := blueprint_appending hrs hc options
  have hassociations := AssociationTable.ofRelationships_append_singleton d.databaseType rs c
  have hheader : ModelsModule.header classes' = ModelsModule.header classes := by
    have htypes : (Blueprint.ofRelationships d options (rs ++ [c])).types =
        (Blueprint.ofRelationships d options rs).types := rfl
    exact Blueprint.header_eq htypes hclasses hclasses'
  have htext' : (d.appending r).modelsModule options = .ok (ModelsModule.assemble
      (AssociationTable.ofRelationships d.databaseType (rs ++ [c])) classes') := by
    have htables' : (d.appending r).tables ≠ [] := htables
    exact (modelsModule_eq_ok_iff htables').mpr ⟨_, classes', hb', hclasses', rfl⟩
  rw [ModelsModule.assemble_eq, hassociations, ModelsModule.associationPart_append,
    hheader, ← String.append_assoc] at htext'
  exact ⟨_, _, classes, classes', _, hb, hb', hclasses, hclasses', ModelsModule.assemble_eq _ classes,
    hassociations, htext', hcount, hall⟩

namespace Office

def rooms : Table := { id := "r", name := "rooms", fields := [roomId] }

/-- The place of a desk is claimed for people again. -/
def seating : Relationship := ⟨"p", "p1", "d", "d2", .one, .many, none, none, none⟩

/-- It refers to them then, and the rooms have the same class. -/
theorem seating_appended :
    ∃ text b b' classes classes' roomsClass desksClass desksClass' place place' type,
      diagram.modelsModule {} = .ok text ∧
      diagram.blueprint {} = .ok b ∧ (diagram.appending seating).blueprint {} = .ok b' ∧
      b.modelClasses diagram.tables = .ok classes ∧ b'.modelClasses diagram.tables = .ok classes' ∧
      (roomsClass, roomsClass) ∈ classes.zip classes' ∧ (desksClass, desksClass') ∈ classes.zip classes' ∧
      (place, place') ∈ desksClass.columns.zip desksClass'.columns ∧
      place'.arguments = [type, "sa.ForeignKey(\"people.id\")"] := by
  obtain ⟨text, htext⟩ : ∃ text, diagram.modelsModule {} = .ok text := ⟨_, rfl⟩
  obtain ⟨b, b', classes, classes', _, hb, hb', hclasses, hclasses', _, _, _, _, hall⟩ :=
    Diagram.relationship_appended (r := seating) (by decide) htext rfl
  have hrooms : rooms ∈ diagram.tables.filter (!·.isView) := by decide
  have hdesks : desks ∈ diagram.tables.filter (!·.isView) := by decide
  obtain ⟨⟨roomsClass, roomsClass'⟩, hroomsMem, hsame, _⟩ := exists_of_forall₂ hall hrooms
  obtain rfl : roomsClass' = roomsClass := hsame (by decide)
  obtain ⟨⟨desksClass, desksClass'⟩, hdesksMem, _, happended⟩ := exists_of_forall₂ hall hdesks
  have hplace : deskPlace ∈ desks.fields := by decide
  obtain ⟨⟨place, place'⟩, hplaceMem, hcolumn⟩ := exists_of_forall₂ happended.columns hplace
  have hholder : seating.keyHolder? = some (desks.id, deskPlace.id) := rfl
  rw [Diagram.ColumnAppended, if_pos hholder] at hcolumn
  obtain ⟨_, target, htarget, hreplaced⟩ := hcolumn
  obtain rfl := Except.ok.inj htarget
  obtain ⟨type, _, harguments⟩ := hreplaced.arguments
  exact ⟨text, b, b', classes, classes', _, _, _, place, place', type, htext, hb, hb', hclasses, hclasses',
    hroomsMem, hdesksMem, hplaceMem, harguments⟩

end Office

end SchemaScribe
