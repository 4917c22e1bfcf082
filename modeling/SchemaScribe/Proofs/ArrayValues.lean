import SchemaScribe.Proofs.ArrayTypes

/-!
# The values of arrays

The values of an array are lists of what its element name has for values by itself, as long as that name is no
enumeration. The values of an enumeration are texts, but the elements of an array are not looked up among the
enumerations. So an array of an enumeration has lists of texts only if its name is not known for other values.
-/

namespace SchemaScribe

open Source DeclaredName

/-! ### Names that mean texts -/

namespace DeclaredName

variable {t : String}

/-- The names of the types whose values are no texts. -/
def otherThanText : List String :=
  integers ++ bigIntegers ++ smallIntegers ++ numerics ++ floats ++ dateTimes ++ booleans ++ binaries ++
    jsons ++ ["date", "time"]

/-- A lower-case name is known for values other than texts: by itself, or by a word in it. -/
def MeansOtherThanText (t : String) : Prop :=
  t ∈ otherThanText ∨ ¬ "varchar".toList <:+: t.toList ∧
    ("timestamp".toList <:+: t.toList ∨ "tinyint".toList <+: t.toList)

theorem meansOtherThanText_iff :
    MeansOtherThanText t ↔
      t ∈ otherThanText ∨ ¬ isVarchar t = true ∧ (isTimestamp t = true ∨ isTinyint t = true) := by
  rw [MeansOtherThanText, isVarchar_iff, isTimestamp_iff, isTinyint_iff]

instance (t : String) : Decidable (MeansOtherThanText t) :=
  decidable_of_iff' _ meansOtherThanText_iff

end DeclaredName

namespace ValueType

variable {t : String}

theorem ofName_of_not_mem_otherThanText (h : t ∉ otherThanText) :
    ofName t =
      if isVarchar t || strings.contains t || t = "text" then text
      else if isTimestamp t then dateTime
      else if isTinyint t then boolean
      else text := by
  simp only [otherThanText, List.mem_append, List.mem_cons, List.not_mem_nil, or_false, not_or] at h
  simp [ofName, h]

/-- The values of a name are texts unless it is known for others. -/
theorem ofName_eq_text_iff : ofName t = text ↔ ¬ MeansOtherThanText t := by
  rw [meansOtherThanText_iff]
  by_cases hother : t ∈ otherThanText
  · have hothers : ∀ name ∈ otherThanText, ofName name ≠ text := by decide
    simp [hother, hothers t hother]
  · rw [ofName_of_not_mem_otherThanText hother]
    by_cases hstring : t ∈ "text" :: strings
    · -- No name of a text has one of the two words in it.
      have hstrings : ∀ name ∈ "text" :: strings, isTimestamp name = false ∧ isTinyint name = false := by
        decide
      simp [hother, hstrings t hstring]
    · simp only [List.mem_cons, not_or] at hstring
      cases isVarchar t <;> cases isTimestamp t <;> cases isTinyint t <;> simp [hother, hstring]

theorem render_inj {type type' : ValueType} : type.render = type'.render ↔ type = type' := by
  cases type <;> cases type' <;> decide

end ValueType

/-! ### Elements -/

theorem AttributeType.render_list (type : ValueType) :
    (list type).render = "list[" ++ (single type).render ++ "]" :=
  rfl

theorem AttributeType.render_list_eq_list_iff {type type' : ValueType} :
    (list type).render = "list[" ++ (single type').render ++ "]" ↔ type = type' := by
  rw [render_list, String.append_left_inj, String.append_right_inj]
  exact ValueType.render_inj

namespace TypeContext

variable {ctx : TypeContext} {declared : String}

theorem attributeType_append_brackets (h : ctx.enumerations.lookup (declared ++ "[]") = none) :
    ctx.attributeType (declared ++ "[]") = .list (.ofName (Text.lower declared)) := by
  rw [attributeType, h, AttributeType.ofDeclaredName, arrayElement?_append_brackets]

theorem attributeType_of_enumeration {e : Enumeration} (h : ctx.enumerations.lookup declared = some e) :
    ctx.attributeType declared = .single .text := by
  rw [attributeType, h]

theorem attributeType_of_not_isArray (harray : ¬ IsArray declared)
    (h : ctx.enumerations.lookup declared = none) :
    ctx.attributeType declared = .single (.ofName (Text.lower declared)) := by
  rw [attributeType, h, AttributeType.ofDeclaredName, arrayElement?_eq_none_of_not_isArray harray]

theorem storage_append_brackets_of_enumeration {e : Enumeration}
    (hname : ctx.enumerations.lookup (declared ++ "[]") = none)
    (h : ctx.enumerations.lookup declared = some e) (f : Field) :
    ctx.storage (f.declaredAs (declared ++ "[]")) = .ok (arrayOf (e.expression declared), none) := by
  rw [storage_declaredAs, columnType_append_brackets hname, elementType, h]
  rfl

end TypeContext

/-- **Values of arrays.** The values of an array are lists of what the element name has for values by itself,
exactly if that name is no enumeration, or is not known for values other than texts. An array of an enumeration
is stored as such whatever its name is, so there the values may be lists of something else. -/
theorem TypeContext.array_values_of_element_iff {ctx : TypeContext} {declared : String}
    (harray : ¬ IsArray declared) (hname : ctx.enumerations.lookup (declared ++ "[]") = none) :
    ((ctx.attributeType (declared ++ "[]")).render = "list[" ++ (ctx.attributeType declared).render ++ "]" ↔
      ctx.enumerations.lookup declared = none ∨ ¬ MeansOtherThanText (Text.lower declared)) ∧
    ∀ e, ctx.enumerations.lookup declared = some e →
      (∀ f : Field, ctx.storage (f.declaredAs (declared ++ "[]")) =
        .ok (arrayOf (e.expression declared), none)) ∧
      (ctx.attributeType declared).render = "str" ∧
      ((ctx.attributeType (declared ++ "[]")).render = "list[str]" ↔
        ¬ MeansOtherThanText (Text.lower declared)) := by
  have hlist := attributeType_append_brackets hname
  have henumeration : ∀ e, ctx.enumerations.lookup declared = some e →
      (ctx.attributeType declared).render = "str" ∧
        ((ctx.attributeType (declared ++ "[]")).render = "list[str]" ↔
          ¬ MeansOtherThanText (Text.lower declared)) := by
    intro e he
    rw [hlist, attributeType_of_enumeration he, AttributeType.render_list_eq_iff,
      ValueType.ofName_eq_text_iff]
    exact ⟨rfl, Iff.rfl⟩
  constructor
  · cases he : ctx.enumerations.lookup declared with
    | none =>
        rw [hlist, attributeType_of_not_isArray harray he, AttributeType.render_list_eq_list_iff]
        simp
    | some e =>
        obtain ⟨htext, hiff⟩ := henumeration e he
        have hstr : "list[" ++ "str" ++ "]" = "list[str]" := by decide
        rw [htext, hstr, hiff]
        simp
  · intro e he
    exact ⟨storage_append_brackets_of_enumeration hname he, henumeration e he⟩

namespace Observatory

theorem arrays_of_skies :
    (context.attributeType "sky[]").render = "list[str]" ∧
      (context.attributeType "Float4[]").render = "list[float]" := by
  have hsky : ¬ IsArray "sky" ∧ ¬ IsArray "Float4" := by
    unfold IsArray
    decide
  constructor
  · have he : context.enumerations.lookup "sky" = some ⟨["clear", "hazy"], none⟩ := by decide
    have hvalues := (TypeContext.array_values_of_element_iff hsky.1 (by decide)).2 _ he
    exact hvalues.2.2.mpr (by decide)
  · have hvalues := (@TypeContext.array_values_of_element_iff context "Float4" hsky.2 (by decide)).1
    exact hvalues.mpr (Or.inl (by decide))

def hours : TypeContext :=
  ⟨.generic, [("time", ⟨["day", "night"], none⟩)]⟩

/-- The hours are stored as an enumeration, and an array of them is one of that enumeration. But its values are
lists of times. -/
theorem hours_as_times :
    ¬ IsArray "time" ∧ hours.enumerations.lookup "time[]" = none ∧
    hours.storage (reading.declaredAs "time[]") =
      .ok ("sa.ARRAY(sa.Enum(\"day\", \"night\", name=\"time\"))", none) ∧
    (hours.attributeType "time").render = "str" ∧
    (hours.attributeType "time[]").render = "list[datetime.time]" := by
  unfold IsArray
  decide

end Observatory

end SchemaScribe
