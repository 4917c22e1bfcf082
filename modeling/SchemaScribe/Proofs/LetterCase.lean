import SchemaScribe.Proofs.ArrayTypes
import SchemaScribe.Proofs.CaseMappings

/-!
# The letter case of type names

Two spellings of a type name that are the same in lower case declare the same column. Brackets have no letter
case, so both spellings end in them or neither does, and the names before the brackets are again the same in
lower case. Only enumerations are told apart by their spelling.
-/

namespace SchemaScribe

namespace DeclaredName

variable {name name' : String}

theorem exists_eq_append_brackets_iff :
    (∃ element, name = element ++ "[]") ↔ "[]".toList <:+ name.toList := by
  constructor
  · rintro ⟨element, rfl⟩
    rw [String.toList_append]
    exact List.suffix_append _ _
  · rintro ⟨front, hfront⟩
    refine ⟨String.ofList front, ?_⟩
    rw [← String.toList_inj, String.toList_append, String.toList_ofList, hfront]

theorem exists_eq_append_brackets_lower_iff :
    (∃ element, Text.lower name = element ++ "[]") ↔ ∃ element, name = element ++ "[]" := by
  rw [exists_eq_append_brackets_iff, exists_eq_append_brackets_iff, Text.toList_lower]
  exact Text.brackets_isSuffix_lowerChars_iff

theorem arrayElement?_of_no_brackets (h : ¬ ∃ element, name = element ++ "[]") :
    arrayElement? name = if Text.lower name = "array" then some "text" else none := by
  rw [exists_eq_append_brackets_iff, ← List.isSuffixOf_iff_suffix] at h
  rw [arrayElement?, arraySuffix]
  exact if_neg h

/-- Two spellings of a name declare arrays of two spellings of one element name, or no arrays. -/
theorem map_lower_arrayElement? (hcase : Text.lower name = Text.lower name') :
    (arrayElement? name).map Text.lower = (arrayElement? name').map Text.lower := by
  have hbrackets : (∃ element, name = element ++ "[]") ↔ ∃ element, name' = element ++ "[]" := by
    rw [← exists_eq_append_brackets_lower_iff, hcase, exists_eq_append_brackets_lower_iff]
  by_cases hname : ∃ element, name = element ++ "[]"
  · obtain ⟨element', rfl⟩ := hbrackets.mp hname
    obtain ⟨element, rfl⟩ := hname
    rw [Text.lower_append_brackets, Text.lower_append_brackets, String.append_left_inj] at hcase
    rw [arrayElement?_append_brackets, arrayElement?_append_brackets, Option.map_some, Option.map_some, hcase]
  · rw [arrayElement?_of_no_brackets hname, arrayElement?_of_no_brackets fun h => hname (hbrackets.mpr h), hcase]

end DeclaredName

open DeclaredName

namespace TypeContext

variable {ctx : TypeContext} {name name' : String}

/-- Neither the name nor the name of its elements is that of an enumeration. -/
structure NamesNoEnumeration (ctx : TypeContext) (name : String) : Prop where
  lookup_name : ctx.enumerations.lookup name = none
  lookup_element : ∀ element ∈ arrayElement? name, ctx.enumerations.lookup element = none

theorem columnType_of_namesNoEnumeration (h : ctx.NamesNoEnumeration name) :
    ctx.columnType name =
      match (arrayElement? name).map Text.lower with
      | some element => .array (.scalar (.ofName ctx.database element))
      | none => .single (.scalar (.ofName ctx.database (Text.lower name))) := by
  rw [columnType, h.lookup_name]
  cases helement : arrayElement? name with
  | none => rfl
  | some element =>
      have hnone := h.lookup_element element helement
      simp only [Option.map_some, elementType, hnone]

theorem attributeType_of_namesNoEnumeration (h : ctx.NamesNoEnumeration name) :
    ctx.attributeType name =
      match (arrayElement? name).map Text.lower with
      | some element => .list (.ofName element)
      | none => .single (.ofName (Text.lower name)) := by
  rw [attributeType, h.lookup_name, AttributeType.ofDeclaredName]
  cases arrayElement? name <;> rfl

theorem columnType_eq_of_lower_eq (hcase : Text.lower name = Text.lower name')
    (h : ctx.NamesNoEnumeration name) (h' : ctx.NamesNoEnumeration name') :
    ctx.columnType name = ctx.columnType name' := by
  rw [columnType_of_namesNoEnumeration h, columnType_of_namesNoEnumeration h', map_lower_arrayElement? hcase, hcase]

theorem attributeType_eq_of_lower_eq (hcase : Text.lower name = Text.lower name')
    (h : ctx.NamesNoEnumeration name) (h' : ctx.NamesNoEnumeration name') :
    ctx.attributeType name = ctx.attributeType name' := by
  rw [attributeType_of_namesNoEnumeration h, attributeType_of_namesNoEnumeration h', map_lower_arrayElement? hcase,
    hcase]

end TypeContext

theorem Field.keywords_eq_of_lower_eq {name name' : String} (hcase : Text.lower name = Text.lower name')
    (f : Field) (compositeKey : Bool) (foreignKey : Option Endpoint) :
    (f.declaredAs name).keywords compositeKey foreignKey = (f.declaredAs name').keywords compositeKey foreignKey := by
  have huuid : (f.declaredAs name).isUuid = (f.declaredAs name').isUuid := by
    unfold isUuid typeName declaredAs
    rw [hcase]
  unfold keywords
  rw [huuid]
  rfl

/-- **Letter case.** Fields whose type names are the same in lower case have the same column, or fail in the same
way, whatever the database, the key and the reference are, unless a name or the name of its elements is that of an
enumeration. -/
theorem Field.column_letter_case {ctx : TypeContext} {name name' : String}
    (hcase : Text.lower name = Text.lower name') (h : ctx.NamesNoEnumeration name)
    (h' : ctx.NamesNoEnumeration name') (f : Field) (compositeKey : Bool) (foreignKey : Option Endpoint) :
    (f.declaredAs name).column ctx compositeKey foreignKey =
      (f.declaredAs name').column ctx compositeKey foreignKey := by
  have htype : ctx.columnType (f.declaredAs name).type.name = ctx.columnType (f.declaredAs name').type.name :=
    TypeContext.columnType_eq_of_lower_eq hcase h h'
  have hvalues : ctx.attributeType (f.declaredAs name).type.name = ctx.attributeType (f.declaredAs name').type.name :=
    TypeContext.attributeType_eq_of_lower_eq hcase h h'
  simp only [column, htype, hvalues, keywords_eq_of_lower_eq hcase, ColumnType.expression_declaredAs]
  rfl

namespace Observatory

/-- The final sigma is one as well where brackets follow it. -/
theorem spellings_of_readings :
    (reading.declaredAs "TimeStamp ΟΔΟΣ[]").column context false none =
      (reading.declaredAs "timestamp οδος[]").column context false none ∧
    (reading.declaredAs "uUID").column context true none = (reading.declaredAs "UuId").column context true none ∧
    (reading.declaredAs "uUID").column context true none =
      .ok ⟨"reading", .single .text, ["UUID"], [⟨"default", "uuid.uuid4"⟩], [], some ⟨.postgresql, "UUID"⟩⟩ := by
  have hfree : ∀ name ∈ ["TimeStamp ΟΔΟΣ[]", "timestamp οδος[]", "uUID", "UuId"],
      context.NamesNoEnumeration name := by
    intro name hname
    constructor
    · revert name
      decide
    · revert name
      decide
  have hcase : Text.lower "TimeStamp ΟΔΟΣ[]" = Text.lower "timestamp οδος[]" ∧
      Text.lower "uUID" = Text.lower "UuId" := by
    decide +kernel
  refine ⟨?_, ?_, by decide +kernel⟩
  · exact Field.column_letter_case hcase.1 (hfree _ (by decide)) (hfree _ (by decide)) reading false none
  · exact Field.column_letter_case hcase.2 (hfree _ (by decide)) (hfree _ (by decide)) reading true none

end Observatory

end SchemaScribe
