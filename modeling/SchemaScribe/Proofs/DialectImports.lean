import SchemaScribe.Proofs.Classification
import SchemaScribe.Proofs.ModuleText
import SchemaScribe.Proofs.TypeExpression

/-!
# What a module imports from a dialect

A line that imports from a dialect lists names in strict order, so it is determined by which names these are.
All symbols of a diagram belong to the dialect of its database. Hence there is at most one such line, and it
has the bare names that the columns of the module are written with.
-/

namespace SchemaScribe

open Source

/-! ### The line for one dialect -/

/-- The line that imports names from a dialect, if there are any. -/
def Dialect.importStatement? (dialect : Dialect) (names : List String) : Option String :=
  if names.isEmpty then none
  else some ("from sqlalchemy.dialects." ++ dialect.name ++ " import " ++ ", ".intercalate names)

/-- The line that imports names from the dialect of a database. -/
def DatabaseType.importStatement? (db : DatabaseType) (names : List String) : Option String :=
  db.dialect?.bind fun dialect => dialect.importStatement? names

namespace DialectSymbol

variable {dialect : Dialect} {symbols symbols' : List DialectSymbol}

theorem mem_namesOf_iff {name : String} : name ∈ namesOf dialect symbols ↔ ⟨dialect, name⟩ ∈ symbols := by
  unfold namesOf
  rw [List.mem_mergeSort, List.mem_eraseDups, List.mem_map]
  constructor
  · rintro ⟨s, hs, rfl⟩
    obtain ⟨hmem, hdialect⟩ := List.mem_filter.mp hs
    obtain rfl : s.dialect = dialect := by simpa using hdialect
    exact hmem
  · intro hs
    exact ⟨_, List.mem_filter.mpr ⟨hs, by simp⟩, rfl⟩

theorem pairwise_lt_namesOf (dialect : Dialect) (symbols : List DialectSymbol) :
    (namesOf dialect symbols).Pairwise (· < ·) := by
  unfold namesOf
  -- Sorted gives `≤` along the list, and without repetitions it is strict.
  generalize hnames : ((symbols.filter (·.dialect = dialect)).map (·.name)).eraseDups = names
  have hnodup : names.Nodup := hnames ▸ nodup_eraseDups _
  have hsorted : (names.mergeSort fun a b => a ≤ b).Pairwise fun a b => decide (a ≤ b) = true := by
    apply List.pairwise_mergeSort
    · intro a b c hab hbc
      simp only [decide_eq_true_eq] at hab hbc ⊢
      exact String.le_trans hab hbc
    · intro a b
      simpa using String.le_total a b
  have hdistinct : (names.mergeSort fun a b => a ≤ b).Nodup :=
    (List.mergeSort_perm names _).nodup_iff.mpr hnodup
  refine hsorted.imp₂ ?_ hdistinct
  intro a b hle hne
  apply String.not_le.mp
  intro hge
  exact hne (String.le_antisymm (of_decide_eq_true hle) hge)

/-- The names depend on which symbols there are, not on their order or on how often they occur. -/
theorem namesOf_congr (h : ∀ s, s ∈ symbols ↔ s ∈ symbols') :
    namesOf dialect symbols = namesOf dialect symbols' := by
  have hpairwise := pairwise_lt_namesOf dialect symbols
  have hpairwise' := pairwise_lt_namesOf dialect symbols'
  have hperm : (namesOf dialect symbols).Perm (namesOf dialect symbols') := by
    rw [List.perm_ext_iff_of_nodup (hpairwise.imp String.ne_of_lt) (hpairwise'.imp String.ne_of_lt)]
    intro name
    rw [mem_namesOf_iff, mem_namesOf_iff, h]
  refine hperm.eq_of_pairwise ?_ hpairwise hpairwise'
  intro a b _ _ hab hba
  exact absurd hba (String.lt_asymm hab)

theorem importLine?_eq (dialect : Dialect) (symbols : List DialectSymbol) :
    importLine? symbols dialect = dialect.importStatement? (namesOf dialect symbols) := by
  unfold importLine? Dialect.importStatement?
  cases namesOf dialect symbols <;> rfl

theorem importLines_congr (h : ∀ s, s ∈ symbols ↔ s ∈ symbols') :
    importLines symbols = importLines symbols' := by
  unfold importLines
  apply List.filterMap_congr
  intro dialect _
  rw [importLine?_eq, importLine?_eq, namesOf_congr h]

theorem importLine?_eq_none (h : ∀ s ∈ symbols, s.dialect ≠ dialect) :
    importLine? symbols dialect = none := by
  have hnames : namesOf dialect symbols = [] := by
    rw [List.eq_nil_iff_forall_not_mem]
    intro name hname
    exact h _ (mem_namesOf_iff.mp hname) rfl
  rw [importLine?_eq, hnames]
  rfl

theorem importLines_nil : importLines [] = [] := by
  unfold importLines
  rw [List.filterMap_eq_nil_iff]
  intro dialect _
  exact importLine?_eq_none fun _ hs => absurd hs List.not_mem_nil

theorem importLines_eq_of_dialect (h : ∀ s ∈ symbols, s.dialect = dialect) :
    importLines symbols = (importLine? symbols dialect).toList := by
  have hother : ∀ other, other ≠ dialect → importLine? symbols other = none := by
    intro other hne
    apply importLine?_eq_none
    intro s hs heq
    exact hne (heq.symm.trans (h s hs))
  have hothers : ∀ front back, dialect ∉ front → dialect ∉ back →
      (front ++ dialect :: back).filterMap (importLine? symbols) = (importLine? symbols dialect).toList := by
    intro front back hfront hback
    have hnone : ∀ others : List Dialect, dialect ∉ others →
        others.filterMap (importLine? symbols) = [] := by
      intro others hothers
      rw [List.filterMap_eq_nil_iff]
      intro other hmem
      exact hother other fun heq => hothers (heq ▸ hmem)
    rw [List.filterMap_append, hnone front hfront, List.nil_append]
    cases hline : importLine? symbols dialect with
    | none => rw [List.filterMap_cons_none hline, hnone back hback, Option.toList_none]
    | some line => rw [List.filterMap_cons_some hline, hnone back hback, Option.toList_some]
  cases dialect with
  | postgresql => exact hothers [] [.mysql, .mssql] (by decide) (by decide)
  | mysql => exact hothers [.postgresql] [.mssql] (by decide) (by decide)
  | mssql => exact hothers [.postgresql, .mysql] [] (by decide) (by decide)

/-- If all symbols belong to one database, the line for its dialect is the only one there can be. -/
theorem importLines_eq_of_belongsTo {db : DatabaseType} (h : ∀ s ∈ symbols, s.BelongsTo db) :
    importLines symbols = (db.dialect?.bind (importLine? symbols)).toList := by
  cases hdb : db.dialect? with
  | none =>
      have hsymbols : symbols = [] := by
        rw [List.eq_nil_iff_forall_not_mem]
        intro s hs
        exact absurd ((h s hs).dialect.symm.trans hdb) (Option.some_ne_none _)
      rw [hsymbols, importLines_nil, Option.bind_none, Option.toList_none]
  | some dialect =>
      apply importLines_eq_of_dialect
      intro s hs
      exact Option.some.inj ((h s hs).dialect.symm.trans hdb)

/-- That line lists the names of the symbols, each once and in strict order. -/
theorem exists_importLine?_eq_importStatement? {db : DatabaseType} (h : ∀ s ∈ symbols, s.BelongsTo db) :
    ∃ names, names.Pairwise (· < ·) ∧ (∀ name, name ∈ names ↔ ∃ s ∈ symbols, s.name = name) ∧
      db.dialect?.bind (importLine? symbols) = db.importStatement? names := by
  cases hdb : db.dialect? with
  | none =>
      refine ⟨[], List.Pairwise.nil, ?_, by rw [DatabaseType.importStatement?, hdb]; rfl⟩
      intro name
      constructor
      · exact fun hname => absurd hname List.not_mem_nil
      · rintro ⟨s, hs, _⟩
        exact absurd ((h s hs).dialect.symm.trans hdb) (Option.some_ne_none _)
  | some dialect =>
      refine ⟨namesOf dialect symbols, pairwise_lt_namesOf dialect symbols, ?_, ?_⟩
      · intro name
        rw [mem_namesOf_iff]
        constructor
        · intro hmem
          exact ⟨_, hmem, rfl⟩
        · rintro ⟨s, hs, rfl⟩
          rw [← Option.some.inj ((h s hs).dialect.symm.trans hdb)]
          exact hs
      · rw [Option.bind_some, importLine?_eq, DatabaseType.importStatement?, hdb, Option.bind_some]

end DialectSymbol

/-! ### The columns of a module -/

namespace Blueprint

variable {d : Diagram} {options : Options} {b : Blueprint} {t : Table} {m : ModelClass}

theorem exists_hasElement_of_mem_columns (hb : d.blueprint options = .ok b) (hm : b.modelClass t = .ok m)
    {c : Column} (hc : c ∈ m.columns) :
    ∃ element, c.HasElement element ∧
      (IsQualified element ∨
        ∃ dialect, d.databaseType.dialect? = some dialect ∧ element ∈ dialect.typeNames) := by
  obtain ⟨f, _, hcolumn⟩ := exists_field_of_mem_columns hm hc
  obtain ⟨element, helement, ⟨_, hqualified⟩ | ⟨s, hbelongs, _, rfl⟩⟩ :=
    Field.exists_hasElement_of_column hcolumn
  · exact ⟨element, helement, Or.inl hqualified.isQualified⟩
  · rw [Diagram.types_of_blueprint hb] at hbelongs
    exact ⟨s.name, helement, Or.inr ⟨s.dialect, hbelongs.dialect, hbelongs.name⟩⟩

theorem mem_symbols_iff {s : DialectSymbol} : s ∈ m.symbols ↔ ∃ c ∈ m.columns, c.symbol = some s := by
  rw [ModelClass.symbols, List.mem_eraseDups, List.mem_filterMap]

theorem belongsTo_of_mem_symbols (hb : d.blueprint options = .ok b) (hm : b.modelClass t = .ok m)
    {s : DialectSymbol} (hs : s ∈ m.symbols) : s.BelongsTo d.databaseType := by
  obtain ⟨c, hc, hsymbol⟩ := mem_symbols_iff.mp hs
  obtain ⟨f, _, hcolumn⟩ := exists_field_of_mem_columns hm hc
  obtain ⟨_, _, ⟨hnone, _⟩ | ⟨s', hbelongs, hsymbol', _⟩⟩ := Field.exists_hasElement_of_column hcolumn
  · exact absurd (hsymbol.symm.trans hnone) (Option.some_ne_none _)
  · obtain rfl := Option.some.inj (hsymbol.symm.trans hsymbol')
    rwa [Diagram.types_of_blueprint hb] at hbelongs

theorem belongsTo_of_mem_flatMap_symbols (hb : d.blueprint options = .ok b) {tables : List Table}
    {classes : List ModelClass} (hclasses : b.modelClasses tables = .ok classes) :
    ∀ s ∈ classes.flatMap (·.symbols), s.BelongsTo d.databaseType := by
  intro s hs
  obtain ⟨m, hm, hs⟩ := List.mem_flatMap.mp hs
  obtain ⟨t, _, _, hmodel⟩ := exists_table_of_mem_modelClasses hclasses hm
  exact belongsTo_of_mem_symbols hb hmodel hs

theorem exists_symbol_name_iff (hm : b.modelClass t = .ok m) {name : String} :
    (∃ s ∈ m.symbols, s.name = name) ↔ ∃ c ∈ m.columns, c.UsesBareName name := by
  constructor
  · rintro ⟨s, hs, hname⟩
    obtain ⟨c, hc, hsymbol⟩ := mem_symbols_iff.mp hs
    obtain ⟨f, _, hcolumn⟩ := exists_field_of_mem_columns hm hc
    exact ⟨c, hc, (Field.usesBareName_iff hcolumn).mpr ⟨s, hsymbol, hname⟩⟩
  · rintro ⟨c, hc, huses⟩
    obtain ⟨f, _, hcolumn⟩ := exists_field_of_mem_columns hm hc
    obtain ⟨s, hsymbol, hname⟩ := (Field.usesBareName_iff hcolumn).mp huses
    exact ⟨s, mem_symbols_iff.mpr ⟨c, hc, hsymbol⟩, hname⟩

theorem exists_symbol_name_flatMap_iff {tables : List Table} {classes : List ModelClass}
    (hclasses : b.modelClasses tables = .ok classes) {name : String} :
    (∃ s ∈ classes.flatMap (·.symbols), s.name = name) ↔
      ∃ t ∈ tables, t.isView = false ∧ ∃ m, b.modelClass t = .ok m ∧ ∃ c ∈ m.columns, c.UsesBareName name := by
  constructor
  · rintro ⟨s, hs, hname⟩
    obtain ⟨m, hm, hs⟩ := List.mem_flatMap.mp hs
    obtain ⟨t, ht, hview, hmodel⟩ := exists_table_of_mem_modelClasses hclasses hm
    exact ⟨t, ht, hview, m, hmodel, (exists_symbol_name_iff hmodel).mp ⟨s, hs, hname⟩⟩
  · rintro ⟨t, ht, hview, m, hmodel, huses⟩
    obtain ⟨m', hm', hmodel'⟩ := exists_modelClass hclasses ht hview
    obtain rfl := Except.ok.inj (hmodel.symm.trans hmodel')
    obtain ⟨s, hs, hname⟩ := (exists_symbol_name_iff hmodel).mpr huses
    exact ⟨s, List.mem_flatMap.mpr ⟨m, hm', hs⟩, hname⟩

end Blueprint

/-- **Imports from a dialect.** The columns of a module are written with qualified expressions and with bare
names from the dialect of the database, or with arrays of these. The header has at most one line that imports
from a dialect, which is that of the database. It lists, in strict order, the bare names that the columns of
tables other than views are written with, and no others. Any list of the same symbols, in whatever order and
however often, gives the same line. -/
theorem Diagram.dialect_imports_exact {d : Diagram} {options : Options} {text : String}
    (htables : d.tables ≠ []) (htext : d.modelsModule options = .ok text) :
    ∃ b classes names, d.blueprint options = .ok b ∧ b.modelClasses d.tables = .ok classes ∧
      (∀ m ∈ classes, ∀ c ∈ m.columns, ∃ element, c.HasElement element ∧
        (IsQualified element ∨
          ∃ dialect, d.databaseType.dialect? = some dialect ∧ element ∈ dialect.typeNames)) ∧
      text = "\n".intercalate
          (ModelsModule.commonImports ++ (d.databaseType.importStatement? names).toList) ++
        "\n\n\n" ++ ModelsModule.baseClass ++ ModelsModule.associationPart b.associations ++
        ModelsModule.classPart classes ++ "\n\n" ∧
      names.Pairwise (· < ·) ∧
      (∀ name, name ∈ names ↔ ∃ t ∈ d.tables, t.isView = false ∧
        ∃ m, b.modelClass t = .ok m ∧ ∃ c ∈ m.columns, c.UsesBareName name) ∧
      (d.databaseType.dialect? = none → names = []) ∧
      ∀ symbols, (∀ s, s ∈ symbols ↔ s ∈ classes.flatMap (·.symbols)) →
        DialectSymbol.importLines symbols = (d.databaseType.importStatement? names).toList := by
  obtain ⟨b, classes, hb, hclasses, rfl⟩ := (modelsModule_eq_ok_iff htables).mp htext
  have hbelongs := Blueprint.belongsTo_of_mem_flatMap_symbols hb hclasses
  obtain ⟨names, hsorted, hnames, hline⟩ := DialectSymbol.exists_importLine?_eq_importStatement? hbelongs
  have hlines := DialectSymbol.importLines_eq_of_belongsTo hbelongs
  rw [hline] at hlines
  refine ⟨b, classes, names, hb, hclasses, ?_, ?_, hsorted, ?_, ?_, ?_⟩
  · intro m hm c hc
    obtain ⟨t, _, _, hmodel⟩ := Blueprint.exists_table_of_mem_modelClasses hclasses hm
    exact Blueprint.exists_hasElement_of_mem_columns hb hmodel hc
  · rw [ModelsModule.assemble_eq, ModelsModule.header, ModelsModule.importBlock, hlines]
  · intro name
    rw [hnames, Blueprint.exists_symbol_name_flatMap_iff hclasses]
  · intro hdb
    rw [List.eq_nil_iff_forall_not_mem]
    intro name hname
    obtain ⟨s, hs, _⟩ := (hnames name).mp hname
    exact absurd ((hbelongs s hs).dialect.symm.trans hdb) (Option.some_ne_none _)
  · intro symbols hsymbols
    rw [← hlines]
    exact DialectSymbol.importLines_congr hsymbols

namespace Catalogue

def itemId : Field := { id := "i1", name := "id", type := ⟨"uuid", none⟩, primaryKey := true }

def itemParts : Field := { id := "i2", name := "parts", type := ⟨"uuid[]", none⟩ }

def itemData : Field := { id := "i3", name := "data", type := ⟨"jsonb", none⟩ }

def hostAddress : Field := { id := "h1", name := "address", type := ⟨"inet", none⟩ }

def items : Table := { id := "i", name := "items", fields := [itemId, itemParts, itemData] }

def hosts : Table := { id := "h", name := "hosts", isView := true, fields := [hostAddress] }

def diagram : Diagram where
  databaseType := .postgresql
  tables := [hosts, items]

def blueprint : Blueprint := .ofRelationships diagram {} []

theorem blueprint_eq : diagram.blueprint {} = .ok blueprint := rfl

/-- The items need two types of the dialect. The type in the view is not imported. -/
theorem items_imported :
    ∃ text names, diagram.modelsModule {} = .ok text ∧ names.Pairwise (· < ·) ∧ "JSONB" ∈ names ∧
      "UUID" ∈ names ∧ "INET" ∉ names ∧
      ∃ body, text = "\n".intercalate (ModelsModule.commonImports ++
        ["from sqlalchemy.dialects.postgresql import " ++ ", ".intercalate names]) ++ body := by
  obtain ⟨text, htext⟩ : ∃ text, diagram.modelsModule {} = .ok text := ⟨_, rfl⟩
  obtain ⟨b, classes, names, hb, _, _, heq, hsorted, hnames, _⟩ :=
    Diagram.dialect_imports_exact (by decide) htext
  obtain rfl := Except.ok.inj (blueprint_eq.symm.trans hb)
  obtain ⟨m, hm⟩ : ∃ m, blueprint.modelClass items = .ok m := ⟨_, rfl⟩
  have hused : ∀ name, name ∈ names ↔ ∃ c ∈ m.columns, c.UsesBareName name := by
    intro name
    rw [hnames]
    constructor
    · rintro ⟨t, ht, hview, m', hm', huses⟩
      obtain rfl : t = items := by
        rcases List.mem_cons.mp ht with rfl | ht
        · cases hview
        · exact List.mem_singleton.mp ht
      obtain rfl := Except.ok.inj (hm.symm.trans hm')
      exact huses
    · intro huses
      exact ⟨items, by decide, rfl, m, hm, huses⟩
  have hqualified : ∀ name ∈ Dialect.typeNames .postgresql, ¬ IsQualified name := by
    intro name hname
    have hbelongs : DialectSymbol.BelongsTo ⟨.postgresql, name⟩ .postgresql := ⟨rfl, hname⟩
    exact hbelongs.not_isQualified
  obtain rfl := Except.ok.inj hm
  have hjson : "JSONB" ∈ names := by
    rw [hused]
    exact ⟨_, List.mem_of_getElem? (i := 2) rfl, Or.inl rfl, hqualified _ (by decide)⟩
  have huuid : "UUID" ∈ names := by
    rw [hused]
    exact ⟨_, List.mem_of_getElem? (i := 1) rfl, Or.inr rfl, hqualified _ (by decide)⟩
  have hinet : "INET" ∉ names := by
    rw [hused]
    rintro ⟨c, hc, helement, _⟩
    revert c
    decide
  refine ⟨text, names, htext, hsorted, hjson, huuid, hinet, ?_⟩
  cases names with
  | nil => exact absurd hjson List.not_mem_nil
  | cons name names =>
      rw [heq]
      simp only [String.append_assoc]
      exact ⟨_, rfl⟩

end Catalogue

end SchemaScribe
