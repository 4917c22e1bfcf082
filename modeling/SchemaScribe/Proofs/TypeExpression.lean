import SchemaScribe.Proofs.ModelClass

/-!
# How the type of a column is written

The type of a column is the name of a type of its database's dialect, or an expression that starts with
`sa.`, or an array of either. The bare names are those that have to be imported: a column is written with a
bare name exactly if it has the symbol of that name.
-/

namespace SchemaScribe

/-- The types that a dialect has of its own. -/
def Dialect.typeNames : Dialect → List String
  | postgresql => ["CIDR", "CITEXT", "HSTORE", "INET", "JSONB", "MACADDR", "MONEY", "UUID"]
  | mysql => ["JSON", "LONGTEXT", "MEDIUMTEXT", "SET", "YEAR"]
  | mssql => ["DATETIME2", "MONEY", "SMALLDATETIME", "UNIQUEIDENTIFIER"]

/-- The symbol is a type of the dialect of a database. -/
structure DialectSymbol.BelongsTo (s : DialectSymbol) (db : DatabaseType) : Prop where
  dialect : db.dialect? = some s.dialect
  name : s.name ∈ s.dialect.typeNames

namespace Source

/-- The expression starts with the name under which the common types are imported. -/
def IsQualified (e : String) : Prop :=
  ∃ rest, e = "sa." ++ rest

def arrayOf (element : String) : String :=
  "sa.ARRAY(" ++ element ++ ")"

/-- The expression is qualified, and its first letter already shows that it is no array. -/
def IsQualifiedElement (e : String) : Prop :=
  "sa.".toList <+: e.toList ∧ e.toList[3]? ≠ some 'A'

instance (e : String) : Decidable (IsQualifiedElement e) :=
  inferInstanceAs (Decidable (_ ∧ _))

theorem IsQualifiedElement.isQualified {e : String} (h : IsQualifiedElement e) : IsQualified e := by
  obtain ⟨rest, hrest⟩ := h.1
  refine ⟨String.ofList rest, ?_⟩
  rw [← String.toList_inj, ← hrest]
  simp

theorem IsQualifiedElement.append {e : String} (h : IsQualifiedElement e) (he : 3 < e.toList.length)
    (rest : String) : IsQualifiedElement (e ++ rest) := by
  unfold IsQualifiedElement
  rw [String.toList_append, List.getElem?_append_left he]
  exact ⟨h.1.trans (List.prefix_append _ _), h.2⟩

theorem isQualified_arrayOf (element : String) : IsQualified (arrayOf element) := by
  have hopen : "sa.ARRAY(" = "sa." ++ "ARRAY(" := by decide
  refine ⟨"ARRAY(" ++ element ++ ")", ?_⟩
  rw [arrayOf, hopen]
  simp only [String.append_assoc]

theorem not_isQualifiedElement_arrayOf (element : String) : ¬ IsQualifiedElement (arrayOf element) := by
  rintro ⟨_, hletter⟩
  apply hletter
  have hlength : 3 < "sa.ARRAY(".toList.length := by decide
  rw [arrayOf, String.append_assoc, String.toList_append, List.getElem?_append_left hlength]
  decide

theorem arrayOf_inj {e e' : String} : arrayOf e = arrayOf e' ↔ e = e' := by
  unfold arrayOf
  rw [String.append_left_inj, String.append_right_inj]

end Source

open Source

theorem DialectSymbol.BelongsTo.not_isQualified {s : DialectSymbol} {db : DatabaseType}
    (h : s.BelongsTo db) : ¬ IsQualified s.name := by
  have hletters : ∀ dialect : Dialect, ∀ name ∈ dialect.typeNames, name.toList.head? ≠ some 's' := by
    intro dialect
    cases dialect <;> decide
  rintro ⟨rest, hrest⟩
  apply hletters s.dialect s.name h.name
  rw [hrest, String.toList_append]
  rfl

/-! ### The symbol of a type -/

namespace ScalarType

variable {db : DatabaseType} {t : String} {s : DialectSymbol}

theorem bind_symbol?_ofCommonName? (t : String) : (ofCommonName? t).bind symbol? = none := by
  unfold ofCommonName?
  simp only [apply_ite (Option.bind · symbol?), Option.bind_some, Option.bind_none, symbol?, ite_self]

theorem belongsTo_of_mem {dialect : Dialect} {names : List (String × ScalarType)}
    (hnames : ∀ entry ∈ names, ∀ s ∈ entry.2.symbol?, s.dialect = dialect ∧ s.name ∈ dialect.typeNames)
    (hdb : db.dialect? = some dialect) {type : ScalarType} (h : names.lookup t = some type)
    (hs : type.symbol? = some s) : s.BelongsTo db := by
  obtain ⟨front, back, rfl, _⟩ := List.lookup_eq_some_iff.mp h
  obtain ⟨rfl, hname⟩ := hnames (t, type) (List.mem_append_right _ List.mem_cons_self) s hs
  exact ⟨hdb, hname⟩

theorem belongsTo_of_ofDialectName? {type : ScalarType} (h : ofDialectName? db.dialect? t = some type)
    (hs : type.symbol? = some s) : s.BelongsTo db := by
  cases hdb : db.dialect? with
  | none =>
      rw [hdb] at h
      exact absurd h.symm (Option.some_ne_none _)
  | some dialect =>
      rw [hdb] at h
      cases dialect with
      | postgresql => exact belongsTo_of_mem (by decide) hdb h hs
      | mysql =>
          rcases Option.or_eq_some_iff.mp h with h | ⟨_, h⟩
          · exact belongsTo_of_mem (by decide) hdb h hs
          · obtain ⟨_, h⟩ := Option.ite_none_right_eq_some.mp h
            obtain rfl := Option.some.inj h
            exact absurd hs.symm (Option.some_ne_none _)
      | mssql =>
          rcases Option.or_eq_some_iff.mp h with h | ⟨_, h⟩
          · exact belongsTo_of_mem (by decide) hdb h hs
          · obtain ⟨_, h⟩ := Option.ite_none_right_eq_some.mp h
            obtain rfl := Option.some.inj h
            exact absurd hs.symm (Option.some_ne_none _)

theorem symbol?_uuid (dialect : Option Dialect) :
    ∀ s ∈ (uuid dialect).symbol?, dialect = some s.dialect ∧ s.name ∈ s.dialect.typeNames := by
  rcases dialect with _ | dialect
  · decide
  · cases dialect <;> decide

theorem symbol?_jsonType (dialect : Option Dialect) :
    ∀ s ∈ (jsonType dialect).symbol?, dialect = some s.dialect ∧ s.name ∈ s.dialect.typeNames := by
  rcases dialect with _ | dialect
  · decide
  · cases dialect <;> decide

/-- Whatever a name means, its symbol is a type of the dialect of the database. -/
theorem belongsTo_of_ofName (hs : (ofName db t).symbol? = some s) : s.BelongsTo db := by
  unfold ofName ofName? at hs
  split at hs
  · obtain ⟨hdialect, hname⟩ := symbol?_uuid db.dialect? s hs
    exact ⟨hdialect, hname⟩
  · split at hs
    · obtain ⟨hdialect, hname⟩ := symbol?_jsonType db.dialect? s hs
      exact ⟨hdialect, hname⟩
    · cases h : (ofDialectName? db.dialect? t).or (ofCommonName? t) with
      | none =>
          rw [h] at hs
          exact absurd hs.symm (Option.some_ne_none _)
      | some type =>
          rw [h] at hs
          rcases Option.or_eq_some_iff.mp h with h | ⟨_, h⟩
          · exact belongsTo_of_ofDialectName? h hs
          · have hnone := bind_symbol?_ofCommonName? t
            rw [h, Option.bind_some] at hnone
            exact absurd (hs.symm.trans hnone) (Option.some_ne_none _)

end ScalarType

theorem ElementType.belongsTo_of_elementType {ctx : TypeContext} {declared : String} {s : DialectSymbol}
    (hs : (ctx.elementType declared).symbol? = some s) : s.BelongsTo ctx.database := by
  unfold TypeContext.elementType at hs
  cases henumeration : ctx.enumerations.lookup declared with
  | some type =>
      rw [henumeration] at hs
      exact absurd hs.symm (Option.some_ne_none _)
  | none =>
      rw [henumeration] at hs
      exact ScalarType.belongsTo_of_ofName hs

theorem ColumnType.belongsTo_of_columnType {ctx : TypeContext} {declared : String} {s : DialectSymbol}
    (hs : (ctx.columnType declared).symbol? = some s) : s.BelongsTo ctx.database := by
  unfold TypeContext.columnType at hs
  cases henumeration : ctx.enumerations.lookup declared with
  | some type =>
      rw [henumeration] at hs
      exact absurd hs.symm (Option.some_ne_none _)
  | none =>
      rw [henumeration] at hs
      cases helement : DeclaredName.arrayElement? declared with
      | none =>
          rw [helement] at hs
          exact ScalarType.belongsTo_of_ofName hs
      | some element =>
          rw [helement] at hs
          exact ElementType.belongsTo_of_elementType hs

/-! ### The expression of a type -/

namespace ScalarType

variable {f : Field} {e : String}

theorem exists_numericExpression_eq_append (h : numericExpression f = .ok e) : ∃ rest, e = "sa.Numeric" ++ rest := by
  have hprecision : ∀ rest, ∃ rest', "sa.Numeric(precision=" ++ rest = "sa.Numeric" ++ rest' := by
    intro rest
    have hword : "sa.Numeric(precision=" = "sa.Numeric" ++ "(precision=" := by decide
    refine ⟨"(precision=" ++ rest, ?_⟩
    rw [hword, String.append_assoc]
  unfold numericExpression at h
  simp only [bind, Except.bind, pure, Except.pure] at h
  split at h
  · exact ⟨"", (Except.ok.inj h).symm⟩
  · split at h
    · cases h
    · split at h
      · obtain rfl := Except.ok.inj h
        rw [String.append_assoc]
        exact hprecision _
      · split at h
        · cases h
        · obtain rfl := Except.ok.inj h
          simp only [String.append_assoc]
          exact hprecision _

theorem isQualifiedElement_numericExpression (h : numericExpression f = .ok e) :
    IsQualifiedElement e := by
  obtain ⟨rest, rfl⟩ := exists_numericExpression_eq_append h
  exact IsQualifiedElement.append (by decide) (by decide) rest

theorem sizedExpression_eq_ok_iff {sized unsized : String} :
    sizedExpression f sized unsized = .ok e ↔
      (f.size? = .ok none ∧ e = unsized) ∨
        ∃ size text, f.size? = .ok (some size) ∧ OversizedNumber.write size = .ok text ∧
          e = sized ++ "(" ++ text ++ ")" := by
  unfold sizedExpression
  simp only [bind, Except.bind, pure, Except.pure]
  cases f.size? with
  | error error => simp
  | ok size? =>
      cases size? with
      | none => simp [eq_comm]
      | some size =>
          cases hwrite : OversizedNumber.write size with
          | error error => simp [hwrite]
          | ok text => simp [hwrite, eq_comm, toString]

theorem isQualifiedElement_sizedExpression {sized unsized : String} (hsized : IsQualifiedElement sized)
    (hlength : 3 < sized.toList.length) (hunsized : IsQualifiedElement unsized)
    (h : sizedExpression f sized unsized = .ok e) : IsQualifiedElement e := by
  rcases sizedExpression_eq_ok_iff.mp h with ⟨_, rfl⟩ | ⟨size, text, _, _, rfl⟩
  · exact hunsized
  · rw [String.append_assoc, String.append_assoc]
    exact hsized.append hlength _

theorem expression_cases {type : ScalarType} (h : type.expression f = .ok e) :
    (type.symbol? = none ∧ IsQualifiedElement e) ∨ ∃ s, type.symbol? = some s ∧ e = s.name := by
  cases type with
  | dialect s => exact Or.inr ⟨s, rfl, (Except.ok.inj h).symm⟩
  | numeric => exact Or.inl ⟨rfl, isQualifiedElement_numericExpression h⟩
  | string =>
      exact Or.inl ⟨rfl, isQualifiedElement_sizedExpression (by decide) (by decide) (by decide) h⟩
  | unicode =>
      exact Or.inl ⟨rfl, isQualifiedElement_sizedExpression (by decide) (by decide) (by decide) h⟩
  | integer | bigInteger | smallInteger | float | unsizedString | text | date | dateTime | zonedDateTime
  | time | interval | boolean | binary | json =>
      obtain rfl := Except.ok.inj h
      exact Or.inl ⟨rfl, by decide⟩

end ScalarType

theorem Enumeration.isQualifiedElement_expression (name : String) (e : Enumeration) :
    IsQualifiedElement (e.expression name) := by
  have henum : ∀ rest, IsQualifiedElement ("sa.Enum(" ++ rest) :=
    IsQualifiedElement.append (by decide) (by decide)
  unfold expression
  simp only [String.append_assoc]
  exact henum _

theorem ElementType.expression_cases {f : Field} {type : ElementType} {e : String}
    (h : type.expression f = .ok e) :
    (type.symbol? = none ∧ IsQualifiedElement e) ∨ ∃ s, type.symbol? = some s ∧ e = s.name := by
  cases type with
  | enumeration name type =>
      obtain rfl := Except.ok.inj h
      exact Or.inl ⟨rfl, type.isQualifiedElement_expression name⟩
  | scalar type => exact ScalarType.expression_cases h

theorem ColumnType.exists_element {f : Field} {type : ColumnType} {e : String}
    (h : type.expression f = .ok e) :
    ∃ (elementType : ElementType) (element : String), elementType.expression f = .ok element ∧
      type.symbol? = elementType.symbol? ∧ (e = element ∨ e = arrayOf element) := by
  cases type with
  | single elementType => exact ⟨elementType, e, h, rfl, Or.inl rfl⟩
  | array elementType =>
      cases helement : elementType.expression f with
      | error error =>
          rw [expression, helement] at h
          cases h
      | ok element =>
          rw [expression, helement] at h
          obtain rfl := Except.ok.inj h
          exact ⟨elementType, element, helement, rfl, Or.inr rfl⟩

/-! ### The type of a column -/

namespace Column

/-- The type of the column is written as `element`, or as an array of it. -/
def HasElement (c : Column) (element : String) : Prop :=
  c.arguments.head? = some element ∨ c.arguments.head? = some (arrayOf element)

instance (c : Column) (element : String) : Decidable (c.HasElement element) :=
  inferInstanceAs (Decidable (_ ∨ _))

/-- The type of the column is written with a name that is not qualified. -/
def UsesBareName (c : Column) (name : String) : Prop :=
  c.HasElement name ∧ ¬ IsQualified name

/-- An array is qualified, so neither of two elements can be an array around the other. -/
theorem HasElement.unique {c : Column} {element element' : String} (h : c.HasElement element)
    (h' : c.HasElement element') (hform : IsQualifiedElement element ∨ ¬ IsQualified element)
    (hform' : IsQualifiedElement element' ∨ ¬ IsQualified element') : element = element' := by
  have hno : ∀ {inner : String}, ¬ (IsQualifiedElement (arrayOf inner) ∨ ¬ IsQualified (arrayOf inner)) := by
    rintro inner (hqualified | hbare)
    · exact not_isQualifiedElement_arrayOf inner hqualified
    · exact hbare (isQualified_arrayOf inner)
  rcases h with h | h <;> rcases h' with h' | h'
  · exact Option.some.inj (h.symm.trans h')
  · rw [Option.some.inj (h.symm.trans h')] at hform
    exact absurd hform hno
  · rw [Option.some.inj (h'.symm.trans h)] at hform'
    exact absurd hform' hno
  · exact arrayOf_inj.mp (Option.some.inj (h.symm.trans h'))

end Column

namespace Field

variable {f : Field} {types : TypeContext} {compositeKey : Bool} {foreignKey : Option Endpoint} {c : Column}

theorem exists_elementType_of_column (h : f.column types compositeKey foreignKey = .ok c) :
    ∃ (elementType : ElementType) (element : String), elementType.expression f = .ok element ∧
      c.symbol = elementType.symbol? ∧ c.HasElement element ∧
      ∀ s ∈ elementType.symbol?, s.BelongsTo types.database := by
  obtain ⟨type, htype, hc⟩ := column_eq_ok_iff.mp h
  obtain ⟨elementType, element, helement, hsymbol, hwritten⟩ := ColumnType.exists_element htype
  have hargument : c.arguments.head? = some type := by
    rw [hc]
    rfl
  refine ⟨elementType, element, helement, by rw [hc]; exact hsymbol, ?_, ?_⟩
  · rcases hwritten with rfl | rfl
    · exact Or.inl hargument
    · exact Or.inr hargument
  · intro s hs
    rw [← hsymbol] at hs
    exact ColumnType.belongsTo_of_columnType hs

theorem exists_hasElement_of_column (h : f.column types compositeKey foreignKey = .ok c) :
    ∃ element, c.HasElement element ∧
      ((c.symbol = none ∧ IsQualifiedElement element) ∨
        ∃ s : DialectSymbol, s.BelongsTo types.database ∧ c.symbol = some s ∧ element = s.name) := by
  obtain ⟨elementType, element, helement, hsymbol, hwritten, hbelongs⟩ := exists_elementType_of_column h
  refine ⟨element, hwritten, ?_⟩
  rw [hsymbol]
  rcases ElementType.expression_cases helement with hqualified | ⟨s, hs, hname⟩
  · exact Or.inl hqualified
  · exact Or.inr ⟨s, hbelongs s hs, hs, hname⟩

/-- The bare name in the type of a column, if there is one, is the name of its symbol. -/
theorem usesBareName_iff (h : f.column types compositeKey foreignKey = .ok c) {name : String} :
    c.UsesBareName name ↔ ∃ s, c.symbol = some s ∧ s.name = name := by
  obtain ⟨element, hwritten, hcases⟩ := exists_hasElement_of_column h
  constructor
  · intro hname
    rcases hcases with ⟨_, hqualified⟩ | ⟨s, hbelongs, hs, rfl⟩
    · obtain rfl := hname.1.unique hwritten (Or.inr hname.2) (Or.inl hqualified)
      exact absurd hqualified.isQualified hname.2
    · exact ⟨s, hs, (hname.1.unique hwritten (Or.inr hname.2) (Or.inr hbelongs.not_isQualified)).symm⟩
  · rintro ⟨s, hs, rfl⟩
    rcases hcases with ⟨hnone, _⟩ | ⟨s', hbelongs, hs', rfl⟩
    · exact absurd (hs.symm.trans hnone) (Option.some_ne_none _)
    · obtain rfl := Option.some.inj (hs.symm.trans hs')
      exact ⟨hwritten, hbelongs.not_isQualified⟩

end Field

end SchemaScribe
