import Mathlib.Tactic.Ring
import SchemaScribe.Diagram.Document
import SchemaScribe.Proofs.Classification
import SchemaScribe.Proofs.ModelClass
import SchemaScribe.Proofs.ModuleText

/-!
# When generation gives no text

A run over a diagram with tables is refused for two reasons. A relationship names a table or field that is not
there; or, where all are there, the column type of some class needs a number with more digits than are read and
written. Each step of the run is traced back to the steps inside it, down to the numbers of a field.
-/

namespace SchemaScribe

/-! ### Numbers -/

namespace Text

theorem digitValue?_le {c : Char} {n : Nat} (h : digitValue? c = some n) : n ≤ 9 := by
  unfold digitValue? at h
  obtain ⟨first, hfirst, rfl⟩ := Option.map_eq_some_iff.mp h
  have hrange := List.find?_some hfirst
  simp only [Bool.and_eq_true, decide_eq_true_eq] at hrange
  omega

theorem numberOfDigits_lt (digits : List Char) : numberOfDigits digits < 10 ^ digits.length := by
  have hfold : ∀ (digits : List Char) (n : Nat),
      digits.foldl (fun n c => 10 * n + (digitValue? c).getD 0) n < (n + 1) * 10 ^ digits.length := by
    intro digits
    induction digits with
    | nil =>
        intro n
        simp
    | cons c digits ih =>
        intro n
        have hdigit : (digitValue? c).getD 0 ≤ 9 := by
          cases hc : digitValue? c with
          | none => simp
          | some value => exact digitValue?_le hc
        rw [List.foldl_cons, List.length_cons, Nat.pow_succ]
        calc digits.foldl (fun n c => 10 * n + (digitValue? c).getD 0) (10 * n + (digitValue? c).getD 0)
            < (10 * n + (digitValue? c).getD 0 + 1) * 10 ^ digits.length := ih _
          _ ≤ (10 * (n + 1)) * 10 ^ digits.length := Nat.mul_le_mul_right _ (by omega)
          _ = (n + 1) * (10 ^ digits.length * 10) := by ring
  have hall := hfold digits 0
  rwa [Nat.zero_add, Nat.one_mul] at hall

end Text

theorem OversizedNumber.limit_eq : limit = 10 ^ maxDigits := by
  unfold limit
  -- With a variable exponent nothing is computed.
  generalize maxDigits = digits
  rfl

theorem OversizedNumber.limit_pos : 0 < limit := by
  rw [limit_eq]
  exact Nat.pow_pos (by decide)

theorem OversizedNumber.exists_write_eq_ok_iff {n : Int} : (∃ s, write n = .ok s) ↔ n.natAbs < limit := by
  unfold write
  split <;> simp_all

theorem OversizedNumber.eq_toString_of_write {n : Int} {s : String} (h : write n = .ok s) : s = toString n := by
  unfold write at h
  split at h
  · exact (Except.ok.inj h).symm
  · cases h

namespace MaxLength

open Text

/-- The size cannot be read, or it cannot be written. -/
inductive IsOversized : MaxLength → Prop where
  | number {n : Int} (hpositive : 0 < n) (h : OversizedNumber.limit ≤ n.natAbs) : IsOversized (.number n)
  | text {s : String} (h : OversizedNumber.maxDigits < (leadingDigits s.toList).length) :
      IsOversized (.text s)

theorem exists_of_positive? {n : Int} {size : Nat} (h : positive? n = some size) : 0 < n ∧ size = n.natAbs := by
  unfold positive? at h
  split at h
  · obtain rfl := Option.some.inj h
    omega
  · cases h

theorem size?_text {s : String} (h : (leadingDigits s.toList).length ≤ OversizedNumber.maxDigits) :
    (text s).size? = .ok (positive? (numberOfDigits (leadingDigits s.toList))) := by
  simp only [size?, if_neg (Nat.not_lt.mpr h)]

/-- A length has a size that can be written, or none, unless it is oversized. -/
theorem isOversized_iff {l : MaxLength} :
    l.IsOversized ↔
      ¬ ∃ size?, l.size? = .ok size? ∧ ∀ size ∈ size?, size < OversizedNumber.limit := by
  cases l with
  | number n =>
      constructor
      · rintro ⟨hpositive, h⟩ ⟨size?, hsize, hall⟩
        obtain rfl := Except.ok.inj hsize
        have hlt := hall n.toNat (by simp [positive?, hpositive])
        omega
      · intro h
        by_contra hsmall
        refine h ⟨positive? n, rfl, ?_⟩
        intro size hsize
        obtain ⟨hpositive, rfl⟩ := exists_of_positive? hsize
        by_contra hlimit
        exact hsmall (.number hpositive (by omega))
  | text s =>
      by_cases hdigits : OversizedNumber.maxDigits < (leadingDigits s.toList).length
      · have hnone : (text s).size? = .error (.text (leadingDigits s.toList).length) := by
          simp only [size?, if_pos hdigits]
        rw [hnone]
        simpa using IsOversized.text hdigits
      · have hsome := size?_text (Nat.le_of_not_lt hdigits)
        have hnumber : numberOfDigits (leadingDigits s.toList) < OversizedNumber.limit := by
          rw [OversizedNumber.limit_eq]
          calc numberOfDigits (leadingDigits s.toList)
              < 10 ^ (leadingDigits s.toList).length := numberOfDigits_lt _
            _ ≤ 10 ^ OversizedNumber.maxDigits := Nat.pow_le_pow_right (by decide) (Nat.le_of_not_lt hdigits)
        constructor
        · intro h
          cases h with
          | text h => exact absurd h hdigits
        · intro h
          refine absurd ⟨_, hsome, ?_⟩ h
          intro size hsize
          obtain ⟨_, rfl⟩ := exists_of_positive? hsize
          simpa using hnumber

end MaxLength

/-! ### Types -/

/-- The field gives a type a number that cannot be read or written. -/
inductive Field.IsOversizedFor (f : Field) : ScalarType → Prop where
  | size {type : ScalarType} (htype : type = .string ∨ type = .unicode) {l : MaxLength}
      (hl : f.maxLength = some l) (h : l.IsOversized) : f.IsOversizedFor type
  | precision {p : Int} (hp : f.precision = some p) (h : OversizedNumber.limit ≤ p.natAbs) :
      f.IsOversizedFor .numeric
  | scale {p s : Int} (hp : f.precision = some p) (hne : p ≠ 0) (hs : f.scale = some s)
      (h : OversizedNumber.limit ≤ s.natAbs) : f.IsOversizedFor .numeric

namespace ScalarType

variable {f : Field}

theorem exists_sizedExpression_iff {sized unsized : String} :
    (∃ e, sizedExpression f sized unsized = .ok e) ↔ ∀ l ∈ f.maxLength, ¬ l.IsOversized := by
  unfold sizedExpression Field.size?
  simp only [bind, Except.bind, pure, Except.pure]
  cases f.maxLength with
  | none => simp
  | some l =>
      simp only [Option.mem_def, Option.some.injEq, forall_eq', MaxLength.isOversized_iff, not_not]
      cases hsize : l.size? with
      | error e => simp
      | ok size? =>
          cases size? with
          | none => simp
          | some size =>
              have hwrite := @OversizedNumber.exists_write_eq_ok_iff size
              cases hwritten : OversizedNumber.write size with
              | error e => simp_all
              | ok text => simp_all

theorem exists_numericExpression_iff_natAbs_lt :
    (∃ e, numericExpression f = .ok e) ↔ f.precision.getD 0 = 0 ∨
      (f.precision.getD 0).natAbs < OversizedNumber.limit ∧ (f.scale.getD 0).natAbs < OversizedNumber.limit := by
  have hprecision := @OversizedNumber.exists_write_eq_ok_iff (f.precision.getD 0)
  have hscale := @OversizedNumber.exists_write_eq_ok_iff (f.scale.getD 0)
  unfold numericExpression
  simp only [bind, Except.bind, pure, Except.pure]
  by_cases hp : f.precision.getD 0 = 0
  · simp [hp]
  · rw [if_neg hp]
    cases hwritten : OversizedNumber.write (f.precision.getD 0) with
    | error e => simp_all
    | ok precision =>
        by_cases hs : f.scale.getD 0 = 0
        · simp_all [OversizedNumber.limit_pos]
        · cases hwritten' : OversizedNumber.write (f.scale.getD 0) with
          | error e => simp_all
          | ok scale => simp_all

theorem exists_numericExpression_iff : (∃ e, numericExpression f = .ok e) ↔ ¬ f.IsOversizedFor .numeric := by
  have hpos := OversizedNumber.limit_pos
  rw [exists_numericExpression_iff_natAbs_lt]
  constructor
  · intro h hoversized
    cases hoversized with
    | size htype _ _ => simp at htype
    | precision hp hlimit =>
        rw [hp, Option.getD_some] at h
        omega
    | scale hp hne hs hlimit =>
        rw [hp, hs, Option.getD_some, Option.getD_some] at h
        omega
  · intro h
    by_contra hnone
    obtain ⟨hzero, hlarge⟩ := not_or.mp hnone
    cases hp : f.precision with
    | none => simp [hp] at hzero
    | some p =>
        rw [hp, Option.getD_some] at hzero hlarge
        by_cases hprecision : OversizedNumber.limit ≤ p.natAbs
        · exact h (.precision hp hprecision)
        · cases hs : f.scale with
          | none =>
              rw [hs, Option.getD_none] at hlarge
              omega
          | some s =>
              rw [hs, Option.getD_some] at hlarge
              exact h (.scale hp hzero hs (by omega))

theorem exists_expression_iff {type : ScalarType} :
    (∃ e, type.expression f = .ok e) ↔ ¬ f.IsOversizedFor type := by
  have hsized : ∀ {type sized unsized}, (type = .string ∨ type = .unicode) →
      ((∃ e, sizedExpression f sized unsized = .ok e) ↔ ¬ f.IsOversizedFor type) := by
    intro type sized unsized htype
    rw [exists_sizedExpression_iff]
    constructor
    · intro h hoversized
      cases hoversized with
      | size _ hl hoversized => exact h _ hl hoversized
      | precision _ _ => simp at htype
      | scale _ _ _ _ => simp at htype
    · intro h l hl hoversized
      exact h (.size htype hl hoversized)
  cases type with
  | string => exact hsized (Or.inl rfl)
  | unicode => exact hsized (Or.inr rfl)
  | numeric => exact exists_numericExpression_iff
  | integer | bigInteger | smallInteger | float | unsizedString | text | date | dateTime | zonedDateTime
  | time | interval | boolean | binary | json | dialect =>
      refine ⟨fun _ hoversized => ?_, fun _ => ⟨_, rfl⟩⟩
      cases hoversized with
      | size htype _ _ => simp at htype

end ScalarType

/-- The scalar type in a column type. An enumeration has none. -/
def ColumnType.scalar? : ColumnType → Option ScalarType
  | single (.scalar type) => some type
  | array (.scalar type) => some type
  | _ => none

theorem ColumnType.exists_expression_iff {f : Field} {type : ColumnType} :
    (∃ e, type.expression f = .ok e) ↔ ∀ s ∈ type.scalar?, ¬ f.IsOversizedFor s := by
  have hmap : ∀ {x : Except OversizedNumber String} {g : String → String},
      (∃ e, x.map g = .ok e) ↔ ∃ e, x = .ok e := by
    intro x g
    cases x <;> simp [Except.map]
  cases type with
  | single element =>
      cases element with
      | enumeration name type => simp [expression, ElementType.expression, scalar?]
      | scalar type => simp [expression, ElementType.expression, scalar?, ScalarType.exists_expression_iff]
  | array element =>
      cases element with
      | enumeration name type => simp [expression, ElementType.expression, scalar?, hmap]
      | scalar type =>
          simp [expression, ElementType.expression, scalar?, hmap, ScalarType.exists_expression_iff]

/-! ### Columns and classes -/

/-- The type of the field needs a number of it that cannot be read or written. -/
def Field.IsOversized (f : Field) (types : TypeContext) : Prop :=
  ∃ s ∈ (types.columnType f.type.name).scalar?, f.IsOversizedFor s

theorem Field.exists_column_iff {f : Field} {types : TypeContext} {compositeKey : Bool}
    {foreignKey : Option Endpoint} :
    (∃ c, f.column types compositeKey foreignKey = .ok c) ↔ ¬ f.IsOversized types := by
  have htype : (∃ e, (types.columnType f.type.name).expression f = .ok e) ↔ ¬ f.IsOversized types := by
    rw [ColumnType.exists_expression_iff, IsOversized]
    simp
  rw [← htype]
  simp only [column_eq_ok_iff]
  constructor
  · rintro ⟨_, e, he, _⟩
    exact ⟨e, he⟩
  · rintro ⟨e, he⟩
    exact ⟨_, e, he, rfl⟩

namespace Blueprint

variable {b : Blueprint}

theorem exists_modelClass_iff {t : Table} :
    (∃ m, b.modelClass t = .ok m) ↔ ∀ f ∈ t.fields, ¬ f.IsOversized b.types := by
  have hcolumns : (∃ columns, b.columns t = .ok columns) ↔ ∀ f ∈ t.fields, ¬ f.IsOversized b.types := by
    unfold columns
    simp only [exists_mapM_eq_ok_iff, Field.exists_column_iff]
  rw [← hcolumns]
  simp only [modelClass_eq_ok_iff]
  constructor
  · rintro ⟨_, columns, h, _⟩
    exact ⟨columns, h⟩
  · rintro ⟨columns, h⟩
    exact ⟨_, columns, h, rfl⟩

theorem exists_modelClasses_iff {tables : List Table} :
    (∃ classes, b.modelClasses tables = .ok classes) ↔
      ∀ t ∈ tables, t.isView = false → ∀ f ∈ t.fields, ¬ f.IsOversized b.types := by
  unfold modelClasses
  simp only [exists_mapM_eq_ok_iff, exists_modelClass_iff, List.mem_filter, Bool.not_eq_true', and_imp]

end Blueprint

/-! ### The run -/

namespace Diagram

variable {d : Diagram}

/-- The first table with the one id has a field with the other. -/
def HasField (d : Diagram) (tableId fieldId : LooseText) : Prop :=
  ∃ t, d.table? tableId = some t ∧ ∃ f ∈ t.fields, f.id = fieldId

/-- The relationship names tables and fields that are there. -/
structure Resolves (d : Diagram) (r : Relationship) : Prop where
  source : d.HasField r.sourceTableId r.sourceFieldId
  target : d.HasField r.targetTableId r.targetFieldId

theorem exists_endpoint_iff {relationshipId : Option String} {tableId fieldId : LooseText} :
    (∃ e, d.endpoint relationshipId tableId fieldId = .ok e) ↔ d.HasField tableId fieldId := by
  simp only [endpoint_eq_ok_iff]
  constructor
  · rintro ⟨e, htable, hfield⟩
    refine ⟨e.table, htable, e.field, List.mem_of_find?_eq_some hfield, ?_⟩
    simpa using List.find?_some hfield
  · rintro ⟨t, htable, f, hf, hid⟩
    have hsome : (t.field? fieldId).isSome := by
      rw [Table.field?, List.find?_isSome]
      exact ⟨f, hf, by simpa using hid⟩
    obtain ⟨found, hfound⟩ := Option.isSome_iff_exists.mp hsome
    exact ⟨⟨t, found⟩, htable, hfound⟩

theorem exists_classify_iff {r : Relationship} {ordinal : Nat} :
    (∃ c, d.classify r ordinal = .ok c) ↔ d.Resolves r := by
  simp only [classify_eq_ok_iff, endpoints_eq_ok_iff]
  constructor
  · rintro ⟨_, source, target, ⟨hsource, htarget⟩, _⟩
    exact ⟨exists_endpoint_iff.mp ⟨source, hsource⟩, exists_endpoint_iff.mp ⟨target, htarget⟩⟩
  · rintro ⟨hsource, htarget⟩
    obtain ⟨source, hsource⟩ := exists_endpoint_iff.mpr hsource
    obtain ⟨target, htarget⟩ := exists_endpoint_iff.mpr htarget
    exact ⟨_, source, target, ⟨hsource, htarget⟩, rfl⟩

theorem exists_classifyFrom_iff {rs : List Relationship} {ordinal : Nat} :
    (∃ cs, d.classifyFrom ordinal rs = .ok cs) ↔ ∀ r ∈ rs, d.Resolves r := by
  induction rs generalizing ordinal with
  | nil => simp [classifyFrom]
  | cons r rs ih =>
      rw [List.forall_mem_cons, ← @exists_classify_iff d r ordinal, ← @ih (ordinal + 1)]
      simp only [classifyFrom_cons_eq_ok_iff]
      constructor
      · rintro ⟨_, c, cs, hc, hcs, _⟩
        exact ⟨⟨c, hc⟩, cs, hcs⟩
      · rintro ⟨⟨c, hc⟩, cs, hcs⟩
        exact ⟨_, c, cs, hc, hcs, rfl⟩

theorem exists_blueprint_iff {options : Options} :
    (∃ b, d.blueprint options = .ok b) ↔ ∀ r ∈ d.relationships, d.Resolves r := by
  rw [← @exists_classifyFrom_iff d d.relationships 0]
  simp only [blueprint_eq_ok_iff]
  constructor
  · rintro ⟨_, rs, hrs, _⟩
    exact ⟨rs, hrs⟩
  · rintro ⟨rs, hrs⟩
    exact ⟨_, rs, hrs, rfl⟩

/-- Some class has a column whose type needs a number that cannot be read or written. -/
def IsOversized (d : Diagram) : Prop :=
  ∃ t ∈ d.tables, t.isView = false ∧ ∃ f ∈ t.fields, f.IsOversized (.ofDiagram d)

theorem exists_modelClasses_iff {options : Options} {b : Blueprint} (hb : d.blueprint options = .ok b) :
    (∃ classes, b.modelClasses d.tables = .ok classes) ↔ ¬ d.IsOversized := by
  rw [Blueprint.exists_modelClasses_iff, types_of_blueprint hb, IsOversized]
  simp only [not_exists, not_and]

theorem exists_dangling_iff {options : Options} :
    (∃ e, d.modelsModule options = .error (.dangling e)) ↔
      d.tables ≠ [] ∧ ¬ ∃ b, d.blueprint options = .ok b := by
  unfold modelsModule
  by_cases htables : d.tables = []
  · simp [htables]
  · rw [if_neg (by simpa using htables)]
    cases hb : d.blueprint options with
    | error e => simp [htables]
    | ok b => cases hclasses : b.modelClasses d.tables <;> simp [hclasses]

theorem exists_oversized_iff {options : Options} :
    (∃ e, d.modelsModule options = .error (.oversized e)) ↔
      d.tables ≠ [] ∧ ∃ b, d.blueprint options = .ok b ∧ ¬ ∃ classes, b.modelClasses d.tables = .ok classes := by
  unfold modelsModule
  by_cases htables : d.tables = []
  · simp [htables]
  · rw [if_neg (by simpa using htables)]
    cases hb : d.blueprint options with
    | error e => simp
    | ok b => cases hclasses : b.modelClasses d.tables <;> simp [htables, hclasses]

/-- **When a module is generated.** There is a text for a diagram without tables, and for one all of whose
relationships name tables and fields that are there, unless a class has an oversized column. A dangling
relationship is the reason of a refusal wherever there is one; an oversized number is the only other. -/
theorem generation_outcome (d : Diagram) (options : Options) :
    ((∃ text, d.modelsModule options = .ok text) ↔
      d.tables = [] ∨ (∀ r ∈ d.relationships, d.Resolves r) ∧ ¬ d.IsOversized) ∧
    ((∃ e, d.modelsModule options = .error (.dangling e)) ↔
      d.tables ≠ [] ∧ ∃ r ∈ d.relationships, ¬ d.Resolves r) ∧
    ((∃ e, d.modelsModule options = .error (.oversized e)) ↔
      d.tables ≠ [] ∧ (∀ r ∈ d.relationships, d.Resolves r) ∧ d.IsOversized) := by
  refine ⟨?_, ?_, ?_⟩
  · by_cases htables : d.tables = []
    · simp [modelsModule, htables]
    · simp only [modelsModule_eq_ok_iff htables, htables, false_or, ← @exists_blueprint_iff d options]
      constructor
      · rintro ⟨_, b, classes, hb, hclasses, _⟩
        exact ⟨⟨b, hb⟩, (exists_modelClasses_iff hb).mp ⟨classes, hclasses⟩⟩
      · rintro ⟨⟨b, hb⟩, hsmall⟩
        obtain ⟨classes, hclasses⟩ := (exists_modelClasses_iff hb).mpr hsmall
        exact ⟨_, b, classes, hb, hclasses, rfl⟩
  · rw [exists_dangling_iff, exists_blueprint_iff]
    simp only [not_forall, exists_prop]
  · rw [exists_oversized_iff, ← @exists_blueprint_iff d options]
    refine and_congr_right fun _ => ?_
    constructor
    · rintro ⟨b, hb, hnone⟩
      rw [exists_modelClasses_iff hb, not_not] at hnone
      exact ⟨⟨b, hb⟩, hnone⟩
    · rintro ⟨⟨b, hb⟩, hoversized⟩
      rw [← not_not (a := d.IsOversized), ← exists_modelClasses_iff hb] at hoversized
      exact ⟨b, hb, hoversized⟩

end Diagram

namespace Archive

open Document OversizedNumber

def title (length : String) : Field where
  id := "t"
  name := "title"
  type := ⟨"varchar", none⟩
  primaryKey := true
  maxLength := some (.text length)

def scrolls (length : String) : Table := { id := "s", name := "scrolls", fields := [title length] }

/-- Scrolls whose titles have a length limit that is given in digits. -/
def diagram (length : String) : Diagram := { tables := [scrolls length] }

def document (length : String) : Value :=
  .object [("tables", .list [.object [("id", .text "s"), ("name", .text "scrolls"),
    ("fields", .list [.object [("id", .text "t"), ("name", .text "title"),
      ("type", .object [("name", .text "varchar")]), ("primaryKey", .bool true),
      ("characterMaximumLength", .text length)]])]])]

theorem ofValue_document (length : String) : Diagram.ofValue (document length) = .ok (diagram length) := rfl

variable {length : String} {e : OversizedNumber}

theorem column_title (h : (MaxLength.text length).size? = .error e) (compositeKey : Bool)
    (foreignKey : Option Endpoint) :
    (title length).column (.ofDiagram (diagram length)) compositeKey foreignKey = .error e := by
  have hsize : (title length).size? = .error e := h
  have htypes : TypeContext.ofDiagram (diagram length) = ⟨.generic, []⟩ := rfl
  have htype : (TypeContext.mk .generic []).columnType "varchar" = .single (.scalar .string) := by decide
  have hexpression : ((TypeContext.ofDiagram (diagram length)).columnType (title length).type.name).expression
      (title length) = .error e := by
    rw [htypes, title, htype, ColumnType.expression, ElementType.expression, ScalarType.expression,
      ScalarType.sizedExpression, ← title, hsize]
    rfl
  rw [Field.column, hexpression]
  rfl

theorem modelsModule_diagram (h : (MaxLength.text length).size? = .error e) :
    (diagram length).modelsModule {} = .error (.oversized e) := by
  have hblueprint : (diagram length).blueprint {} = .ok (Blueprint.ofRelationships (diagram length) {} []) := rfl
  have hclass : (Blueprint.ofRelationships (diagram length) {} []).modelClass (scrolls length) = .error e := by
    rw [Blueprint.modelClass, Blueprint.columns, scrolls, List.mapM_cons, Blueprint.ofRelationships,
      column_title h]
    rfl
  have hclasses : (Blueprint.ofRelationships (diagram length) {} []).modelClasses [scrolls length] =
      .error e := by
    have hfilter : [scrolls length].filter (!·.isView) = [scrolls length] := rfl
    rw [Blueprint.modelClasses, hfilter, List.mapM_cons, hclass]
    rfl
  rw [Diagram.modelsModule, if_neg (by simp [diagram]), hblueprint]
  simp only [diagram] at hclasses ⊢
  rw [hclasses]

/-- A length of 4301 digits cannot be read. No relationship is there that could dangle. -/
theorem length_not_read :
    ∃ length, Diagram.ofValue (document length) = .ok (diagram length) ∧
      (∀ r ∈ (diagram length).relationships, (diagram length).Resolves r) ∧
      (diagram length).modelsModule {} = .error (.oversized (.text 4301)) := by
  have hdigits : MaxLength.leadingDigits (List.replicate 4301 '1') = List.replicate 4301 '1' := by
    unfold MaxLength.leadingDigits
    rw [List.dropWhile_replicate, if_neg (by decide), List.takeWhile_replicate, if_pos (by decide)]
  refine ⟨String.ofList (List.replicate 4301 '1'), ofValue_document _, ?_, ?_⟩
  · intro r hr
    cases hr
  · apply modelsModule_diagram
    simp only [MaxLength.size?, String.toList_ofList, hdigits, List.length_replicate]
    rw [if_pos (by decide)]

end Archive

end SchemaScribe
