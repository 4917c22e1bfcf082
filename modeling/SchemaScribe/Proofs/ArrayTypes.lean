import SchemaScribe.Proofs.TypeExpression
import SchemaScribe.Proofs.Words

/-!
# The types of arrays

A name with brackets behind it declares an array, and its elements have the type that the name has by itself.
Brackets are cut off once. Names of types are compared as a whole, so no name that still ends in brackets is
known, except for three words that are also recognized inside a name.
-/

namespace SchemaScribe

open Source

/-! ### Names with brackets -/

namespace DeclaredName

variable {t : String}

/-- The name ends in brackets, or it is the word for an array in any letter case. -/
def IsArray (declared : String) : Prop :=
  "[]".toList <:+ declared.toList ∨ Text.lower declared = "array"

theorem arrayElement?_append_brackets (declared : String) :
    arrayElement? (declared ++ "[]") = some declared := by
  have hlength : (declared ++ "[]").toList.length - 2 = declared.toList.length := by
    simp
  unfold arrayElement?
  rw [if_pos, hlength, String.toList_append, List.take_left, String.ofList_toList]
  rw [List.isSuffixOf_iff_suffix, String.toList_append]
  exact List.suffix_append _ _

theorem arrayElement?_eq_none_of_not_isArray {declared : String} (h : ¬ IsArray declared) :
    arrayElement? declared = none := by
  obtain ⟨hbrackets, hword⟩ := not_or.mp h
  unfold arrayElement?
  rw [if_neg, if_neg hword]
  rwa [List.isSuffixOf_iff_suffix]

theorem append_nested_brackets (base : String) : base ++ "[][]" = base ++ "[]" ++ "[]" := by
  rw [String.append_assoc]
  rfl

theorem append_brackets_ne (t : String) {name : String} (h : name.toList.getLast? ≠ some ']') :
    t ++ "[]" ≠ name := by
  rintro rfl
  apply h
  rw [String.toList_append]
  exact List.getLast?_append_of_ne_nil _ (by decide)

theorem append_brackets_not_mem (t : String) (names : List String)
    (h : ∀ name ∈ names, name.toList.getLast? ≠ some ']') : t ++ "[]" ∉ names :=
  fun hmem => append_brackets_ne t (h _ hmem) rfl

theorem lookup_append_brackets (t : String) (names : List (String × ScalarType))
    (h : ∀ entry ∈ names, entry.1.toList.getLast? ≠ some ']') : names.lookup (t ++ "[]") = none := by
  rw [List.lookup_eq_none_iff]
  intro entry hentry
  rw [bne_iff_ne]
  exact append_brackets_ne t (h entry hentry)

theorem isInfix_append_brackets_iff {word : List Char} (hopen : '[' ∉ word) (hclose : ']' ∉ word)
    (cs : List Char) : word <:+: cs ++ ['[', ']'] ↔ word <:+: cs := by
  -- One character at a time: a word that reaches the last character has that character in it.
  have hone : ∀ {c : Char} (cs : List Char), c ∉ word → (word <:+: cs ++ [c] ↔ word <:+: cs) := by
    intro c cs hc
    rw [List.infix_concat_iff, List.suffix_concat_iff]
    refine or_iff_right_of_imp ?_
    rintro (rfl | ⟨front, rfl, _⟩)
    · exact List.nil_infix
    · exact absurd (List.mem_append_right front List.mem_cons_self) hc
  rw [List.append_cons, hone _ hclose, hone _ hopen]

theorem isPrefix_append_brackets_iff {word : List Char} (hopen : '[' ∉ word) (hclose : ']' ∉ word)
    (cs : List Char) : word <+: cs ++ ['[', ']'] ↔ word <+: cs := by
  have hone : ∀ {c : Char} (cs : List Char), c ∉ word → (word <+: cs ++ [c] ↔ word <+: cs) := by
    intro c cs hc
    rw [List.prefix_concat_iff]
    refine or_iff_right_of_imp ?_
    rintro rfl
    exact absurd (List.mem_append_right cs List.mem_cons_self) hc
  rw [List.append_cons, hone _ hclose, hone _ hopen]

theorem isTinyint_iff : isTinyint t = true ↔ "tinyint".toList <+: t.toList :=
  List.isPrefixOf_iff_prefix

theorem isVarchar_iff : isVarchar t = true ↔ "varchar".toList <:+: t.toList :=
  Text.contains_iff

theorem isTimestamp_iff : isTimestamp t = true ↔ "timestamp".toList <:+: t.toList :=
  Text.contains_iff

theorem isTinyint_append_brackets (t : String) : isTinyint (t ++ "[]") = isTinyint t := by
  rw [Bool.eq_iff_iff, isTinyint_iff, isTinyint_iff, String.toList_append]
  exact isPrefix_append_brackets_iff (by decide) (by decide) t.toList

theorem isVarchar_append_brackets (t : String) : isVarchar (t ++ "[]") = isVarchar t := by
  rw [Bool.eq_iff_iff, isVarchar_iff, isVarchar_iff, String.toList_append]
  exact isInfix_append_brackets_iff (by decide) (by decide) t.toList

theorem isTimestamp_append_brackets (t : String) : isTimestamp (t ++ "[]") = isTimestamp t := by
  rw [Bool.eq_iff_iff, isTimestamp_iff, isTimestamp_iff, String.toList_append]
  exact isInfix_append_brackets_iff (by decide) (by decide) t.toList

end DeclaredName

/-! ### What is still known with brackets -/

open DeclaredName

namespace ScalarType

theorem ofDialectName?_append_brackets (dialect : Option Dialect) (t : String) :
    ofDialectName? dialect (t ++ "[]") =
      if isTinyint t = true ∧ dialect = some .mysql then some .boolean else none := by
  rcases dialect with _ | dialect
  · simp [ofDialectName?]
  · cases dialect with
    | postgresql => simp [ofDialectName?, lookup_append_brackets t postgresqlNames (by decide)]
    | mysql =>
        simp [ofDialectName?, lookup_append_brackets t mysqlNames (by decide), isTinyint_append_brackets]
    | mssql =>
        simp [ofDialectName?, lookup_append_brackets t mssqlNames (by decide),
          append_brackets_not_mem t unicodeStrings (by decide)]

theorem ofCommonName?_append_brackets (t : String) :
    ofCommonName? (t ++ "[]") =
      if isTinyint t then some .smallInteger
      else if isVarchar t then some .string
      else if isTimestamp t then some .zonedDateTime
      else none := by
  unfold ofCommonName?
  simp (disch := decide) only [List.contains_iff_mem, append_brackets_not_mem, append_brackets_ne, if_false,
    Bool.or_eq_true, false_or, or_false, isTinyint_append_brackets, isVarchar_append_brackets,
    isTimestamp_append_brackets]

/-- With brackets behind it, a name is known only by a word inside it. -/
theorem ofName_append_brackets (db : DatabaseType) (t : String) :
    ofName db (t ++ "[]") =
      if isTinyint t then (if db.dialect? = some .mysql then .boolean else .smallInteger)
      else if isVarchar t then .string
      else if isTimestamp t then .zonedDateTime
      else .unsizedString := by
  have huuid : t ++ "[]" ≠ "uuid" := append_brackets_ne t (by decide)
  have hjson : jsons.contains (t ++ "[]") = false := by
    simpa using append_brackets_not_mem t jsons (by decide)
  rw [ofName, ofName?, if_neg huuid, hjson, if_neg Bool.false_ne_true, ofDialectName?_append_brackets,
    ofCommonName?_append_brackets]
  cases isTinyint t with
  | true => by_cases hmysql : db.dialect? = some .mysql <;> simp [hmysql]
  | false => cases isVarchar t <;> cases isTimestamp t <;> simp

end ScalarType

theorem ValueType.ofName_append_brackets (t : String) :
    ofName (t ++ "[]") =
      if isVarchar t then text
      else if isTimestamp t then dateTime
      else if isTinyint t then boolean
      else text := by
  unfold ofName
  simp (disch := decide) only [List.contains_iff_mem, append_brackets_not_mem, append_brackets_ne, if_false,
    Bool.or_eq_true, decide_false, Bool.false_eq_true, or_self, false_or, or_false, isTinyint_append_brackets,
    isVarchar_append_brackets, isTimestamp_append_brackets]

/-! ### Elements -/

/-- The field with another declared type name. -/
def Field.declaredAs (f : Field) (name : String) : Field :=
  { f with type := { f.type with name := name } }

theorem ColumnType.expression_declaredAs (type : ColumnType) (f : Field) (name : String) :
    type.expression (f.declaredAs name) = type.expression f := by
  have hscalar : ∀ type : ScalarType, type.expression (f.declaredAs name) = type.expression f := by
    intro type
    cases type <;> rfl
  have helement : ∀ type : ElementType, type.expression (f.declaredAs name) = type.expression f := by
    intro type
    cases type with
    | enumeration name type => rfl
    | scalar type => exact hscalar type
  cases type with
  | single element => exact helement element
  | array element => rw [expression, expression, helement]

namespace TypeContext

variable {ctx : TypeContext} {declared : String}

/-- The expression of a field's type, with the symbol to be imported for it. -/
def storage (ctx : TypeContext) (f : Field) : Except OversizedNumber (String × Option DialectSymbol) :=
  ((ctx.columnType f.type.name).expression f).map fun expression =>
    (expression, (ctx.columnType f.type.name).symbol?)

theorem columnType_append_brackets (h : ctx.enumerations.lookup (declared ++ "[]") = none) :
    ctx.columnType (declared ++ "[]") = .array (ctx.elementType declared) := by
  rw [columnType, h, arrayElement?_append_brackets]

theorem columnType_of_not_isArray (h : ¬ IsArray declared) :
    ctx.columnType declared = .single (ctx.elementType declared) := by
  rw [columnType, elementType, arrayElement?_eq_none_of_not_isArray h]
  cases ctx.enumerations.lookup declared <;> rfl

theorem storage_declaredAs (ctx : TypeContext) (f : Field) (name : String) :
    ctx.storage (f.declaredAs name) =
      ((ctx.columnType name).expression f).map fun expression => (expression, (ctx.columnType name).symbol?) := by
  rw [storage, ColumnType.expression_declaredAs]
  rfl

theorem storage_append_brackets (harray : ¬ IsArray declared)
    (h : ctx.enumerations.lookup (declared ++ "[]") = none) (f : Field) :
    ctx.storage (f.declaredAs (declared ++ "[]")) =
      (ctx.storage (f.declaredAs declared)).map (Prod.map arrayOf id) := by
  rw [storage_declaredAs, storage_declaredAs, columnType_append_brackets h, columnType_of_not_isArray harray,
    ColumnType.expression, ColumnType.expression]
  cases (ctx.elementType declared).expression f <;> rfl

end TypeContext

theorem Field.column_eq_ok_iff_storage {f : Field} {types : TypeContext} {compositeKey : Bool}
    {foreignKey : Option Endpoint} {c : Column} :
    f.column types compositeKey foreignKey = .ok c ↔
      ∃ expression symbol, types.storage f = .ok (expression, symbol) ∧
        c = ⟨Naming.sanitize f.name, types.attributeType f.type.name,
          expression :: foreignKey.toList.map foreignKeyArgument, f.keywords compositeKey foreignKey,
          commentLines f.comments indent, symbol⟩ := by
  rw [column_eq_ok_iff, TypeContext.storage]
  cases (types.columnType f.type.name).expression f with
  | error e => simp [Except.map]
  | ok expression => simp [Except.map]

/-- **Arrays.** The type of an array is written as an array of the type that its element name has by itself, and
needs the same import, whatever kind of type that is; if the one cannot be written, neither can the other. So a
column of arrays differs from a column of elements in its first argument only, which is put into an array. -/
theorem TypeContext.array_storage_of_element {ctx : TypeContext} {declared : String}
    (harray : ¬ IsArray declared) (hname : ctx.enumerations.lookup (declared ++ "[]") = none) (f : Field) :
    ctx.storage (f.declaredAs (declared ++ "[]")) =
      (ctx.storage (f.declaredAs declared)).map (Prod.map arrayOf id) ∧
    ∀ compositeKey foreignKey c, (f.declaredAs declared).column ctx compositeKey foreignKey = .ok c →
      ∃ expression rest c', c.arguments = expression :: rest ∧
        (f.declaredAs (declared ++ "[]")).column ctx compositeKey foreignKey = .ok c' ∧
        c'.arguments = arrayOf expression :: rest ∧ c'.symbol = c.symbol := by
  have hstorage := storage_append_brackets harray hname f
  refine ⟨hstorage, ?_⟩
  intro compositeKey foreignKey c hc
  obtain ⟨expression, symbol, helement, rfl⟩ := Field.column_eq_ok_iff_storage.mp hc
  rw [helement] at hstorage
  exact ⟨expression, _, _, rfl, Field.column_eq_ok_iff_storage.mpr ⟨_, _, hstorage, rfl⟩, rfl, rfl⟩

namespace Observatory

def context : TypeContext :=
  ⟨.cockroachdb, [("sky", ⟨["clear", "hazy"], none⟩)]⟩

def reading : Field := { id := "r", name := "reading", type := ⟨"text", none⟩ }

/-- An enumeration, a type of the dialect, and a type that is not known. -/
theorem arrays_of_readings :
    context.storage (reading.declaredAs "sky[]") =
      .ok ("sa.ARRAY(sa.Enum(\"clear\", \"hazy\", name=\"sky\"))", none) ∧
    context.storage (reading.declaredAs "Uuid[]") = .ok ("sa.ARRAY(UUID)", some ⟨.postgresql, "UUID"⟩) ∧
    context.storage (reading.declaredAs "SKY[]") = .ok ("sa.ARRAY(sa.String)", none) := by
  have hstorage : ∀ declared ∈ ["sky", "Uuid", "SKY"],
      context.storage (reading.declaredAs (declared ++ "[]")) =
        (context.storage (reading.declaredAs declared)).map (Prod.map arrayOf id) := by
    intro declared hdeclared
    have hplain : ¬ IsArray declared ∧ context.enumerations.lookup (declared ++ "[]") = none := by
      unfold IsArray
      revert declared
      decide
    exact (TypeContext.array_storage_of_element hplain.1 hplain.2 reading).1
  simp only [List.forall_mem_cons] at hstorage
  obtain ⟨hsky, huuid, hunknown, _⟩ := hstorage
  exact ⟨hsky, huuid, hunknown⟩

end Observatory

/-! ### Brackets inside brackets -/

theorem ScalarType.sizedExpression_eq_string_iff {f : Field} :
    sizedExpression f "sa.String" "sa.String" = .ok "sa.String" ↔ f.size? = .ok none := by
  -- A size is written behind the same word, so the text with it is longer, whatever the size is.
  have hlonger : ∀ text, "sa.String" ++ "(" ++ text ++ ")" ≠ "sa.String" := by
    intro text h
    have hlength := congrArg (fun s : String => s.toList.length) h
    simp at hlength
  rw [sizedExpression_eq_ok_iff]
  constructor
  · rintro (⟨hnone, _⟩ | ⟨size, text, _, _, htext⟩)
    · exact hnone
    · exact absurd htext.symm (hlonger text)
  · intro hnone
    exact Or.inl ⟨hnone, rfl⟩

/-- With brackets behind it, a name is written as a string without a size if none of the three words is in its
place, or if that is `varchar` and no size is declared. -/
theorem ScalarType.expression_append_brackets_iff {db : DatabaseType} {t : String} {f : Field} :
    ((ofName db (t ++ "[]")).expression f = .ok "sa.String" ∧ (ofName db (t ++ "[]")).symbol? = none) ↔
      ¬ isTinyint t = true ∧
        (isVarchar t = true ∧ f.size? = .ok none ∨ ¬ isVarchar t = true ∧ ¬ isTimestamp t = true) := by
  rw [ofName_append_brackets]
  by_cases htinyint : isTinyint t = true
  · by_cases hmysql : db.dialect? = some .mysql <;> simp [htinyint, hmysql, expression]
  · by_cases hvarchar : isVarchar t = true
    · simp [htinyint, hvarchar, expression, sizedExpression_eq_string_iff, symbol?]
    · by_cases htimestamp : isTimestamp t = true <;>
        simp [htinyint, hvarchar, htimestamp, expression, symbol?]

theorem ValueType.ofName_append_brackets_eq_text_iff {t : String} :
    ofName (t ++ "[]") = text ↔ isVarchar t = true ∨ ¬ isTimestamp t = true ∧ ¬ isTinyint t = true := by
  rw [ofName_append_brackets]
  cases isVarchar t <;> cases isTimestamp t <;> cases isTinyint t <;> simp

theorem AttributeType.render_list_eq_iff {type : ValueType} :
    (AttributeType.list type).render = "list[str]" ↔ type = .text := by
  cases type <;> decide

namespace TypeContext

variable {ctx : TypeContext} {f : Field} {base : String}

theorem columnType_append_nested (h : ctx.enumerations.lookup (base ++ "[][]") = none)
    (hinner : ctx.enumerations.lookup (base ++ "[]") = none) :
    ctx.columnType (base ++ "[][]") =
      .array (.scalar (.ofName ctx.database (Text.lower base ++ "[]"))) := by
  rw [append_nested_brackets] at h ⊢
  rw [columnType_append_brackets h, elementType, hinner, Text.lower_append_brackets]

theorem attributeType_append_nested (h : ctx.enumerations.lookup (base ++ "[][]") = none) :
    ctx.attributeType (base ++ "[][]") = .list (.ofName (Text.lower base ++ "[]")) := by
  rw [attributeType, h, AttributeType.ofDeclaredName, append_nested_brackets, arrayElement?_append_brackets]
  exact congrArg (fun t => AttributeType.list (.ofName t)) (Text.lower_append_brackets base)

theorem storage_eq_array_iff {element : ElementType} (h : ctx.columnType f.type.name = .array element)
    {expression : String} {symbol : Option DialectSymbol} :
    ctx.storage f = .ok (arrayOf expression, symbol) ↔
      element.expression f = .ok expression ∧ element.symbol? = symbol := by
  rw [storage, h, ColumnType.expression, ColumnType.symbol?]
  cases element.expression f with
  | error e => simp [Except.map]
  | ok e =>
      simp only [Except.map, Except.ok.injEq, Prod.mk.injEq]
      exact and_congr_left' arrayOf_inj

end TypeContext

/-- **Brackets inside brackets.** A name that ends in brackets twice declares an array of strings without a size,
unless an enumeration has that name or the name before the last brackets, or one of three words is still found:
`tinyint` at the start of the name, `varchar` in it while the field has a size, or `timestamp` in it but not
`varchar`. The values are lists of texts if `varchar` is in it, or else neither of the others. -/
theorem TypeContext.nested_array_of_strings_iff {ctx : TypeContext} {f : Field} {base : String}
    (hname : f.type.name = base ++ "[][]") (houter : ctx.enumerations.lookup (base ++ "[][]") = none)
    (hinner : ctx.enumerations.lookup (base ++ "[]") = none) :
    (ctx.storage f = .ok ("sa.ARRAY(sa.String)", none) ↔
      ¬ "tinyint".toList <+: (Text.lower base).toList ∧
        ("varchar".toList <:+: (Text.lower base).toList ∧ f.size? = .ok none ∨
          ¬ "varchar".toList <:+: (Text.lower base).toList ∧
            ¬ "timestamp".toList <:+: (Text.lower base).toList)) ∧
    ((ctx.attributeType f.type.name).render = "list[str]" ↔
      "varchar".toList <:+: (Text.lower base).toList ∨
        ¬ "timestamp".toList <:+: (Text.lower base).toList ∧
          ¬ "tinyint".toList <+: (Text.lower base).toList) := by
  have htype : ctx.columnType f.type.name = _ := hname ▸ columnType_append_nested houter hinner
  have hstring : "sa.ARRAY(sa.String)" = arrayOf "sa.String" := by decide
  rw [← isTinyint_iff, ← isVarchar_iff, ← isTimestamp_iff]
  constructor
  · rw [hstring, storage_eq_array_iff htype]
    exact ScalarType.expression_append_brackets_iff
  · rw [hname, attributeType_append_nested houter, AttributeType.render_list_eq_iff]
    exact ValueType.ofName_append_brackets_eq_text_iff

namespace Observatory

def grid (declared : String) (length : Option MaxLength) : Field :=
  { id := "g", name := "grid", type := ⟨declared, none⟩, maxLength := length }

theorem grid_of_integers :
    context.storage (grid "integer[][]" (some (.number 8))) = .ok ("sa.ARRAY(sa.String)", none) ∧
      (context.attributeType (grid "integer[][]" (some (.number 8))).type.name).render = "list[str]" := by
  have hname : (grid "integer[][]" (some (.number 8))).type.name = "integer" ++ "[][]" := by decide
  have houter : context.enumerations.lookup ("integer" ++ "[][]") = none := by decide
  have hinner : context.enumerations.lookup ("integer" ++ "[]") = none := by decide
  have hwords : ¬ "tinyint".toList <+: (Text.lower "integer").toList ∧
      ¬ "varchar".toList <:+: (Text.lower "integer").toList ∧
      ¬ "timestamp".toList <:+: (Text.lower "integer").toList := by
    have hlower : Text.lower "integer" = "integer" := by decide
    rw [hlower, ← isTinyint_iff, ← isVarchar_iff, ← isTimestamp_iff]
    decide
  obtain ⟨hstorage, hvalues⟩ := TypeContext.nested_array_of_strings_iff hname houter hinner
  exact ⟨hstorage.mpr ⟨hwords.1, Or.inr hwords.2⟩, hvalues.mpr (Or.inr ⟨hwords.2.2, hwords.1⟩)⟩

/-- Where there are no enumerations at all, timestamps are known with brackets behind them. -/
theorem grid_of_timestamps :
    (TypeContext.mk .generic []).storage (grid "timestamp[][]" none) =
        .ok ("sa.ARRAY(sa.DateTime(timezone=True))", none) ∧
      ((TypeContext.mk .generic []).attributeType (grid "timestamp[][]" none).type.name).render =
        "list[datetime.datetime]" := by
  decide

end Observatory

end SchemaScribe
