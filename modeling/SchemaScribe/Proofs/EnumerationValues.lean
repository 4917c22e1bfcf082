import SchemaScribe.Proofs.CallArguments
import SchemaScribe.Proofs.Entries
import SchemaScribe.Proofs.ModelClass
import SchemaScribe.Proofs.QuotedNames

/-!
# The values of enumerations

The type of a column is an enumeration if its name is declared as one with values, and the last such
declaration counts. Its values are escaped, so whatever characters they have, the positional arguments of the
expression are read as those values, each as a literal of its own. The name and the schema follow by keyword.
They are not escaped, so they are read as themselves if they are verbatim.
-/

namespace SchemaScribe

open StringLiteral Token

def codePoints (s : String) : List Nat :=
  s.toList.map Char.toNat

/-! ### Escaped values -/

namespace Text

/-- The four digits of a control character are read as its code point. -/
theorem hexDigits_of_lt_space : ∀ code < 0x20, (hexDigits 4 code).length = 4 ∧
    Document.Json.hexNumber? 4 (hexDigits 4 code) = some code ∧ (hexDigits 4 code).all IsPlain := by
  -- The last part is no quantifier over members: an instance for all characters would decide it.
  decide

theorem codeEscape?_hexDigits {code : Nat} (hcode : code < 0x20) (cs : List Char) :
    codeEscape? 4 (hexDigits 4 code ++ cs) = some ([code], 5) := by
  obtain ⟨hlength, hnumber, _⟩ := hexDigits_of_lt_space code hcode
  have hrest : Document.Json.hexNumber? 4 (hexDigits 4 code ++ cs) = some code := by
    rw [← hnumber, Document.Json.hexNumber?, Document.Json.hexNumber?, List.length_append, if_neg (by omega),
      if_neg (by omega), List.take_append_of_le_length (Nat.le_of_eq hlength.symm)]
  have hmax : code ≤ maxCode := by
    unfold maxCode
    omega
  rw [codeEscape?, hrest, Option.filter_some, if_pos (by simpa using hmax)]
  rfl

theorem encodes_doubleQuotedChar (c : Char) : Encodes c (doubleQuotedChar c) := by
  have hsimple : ∀ {d e : Char}, c = d → e ≠ '\n' → e ≠ '\r' →
      (∀ named cs, escape? named (e :: cs) = some ([d.toNat], 1)) → Encodes c ['\\', e] := by
    rintro d e rfl hfeed hreturn hescape
    exact .escape hfeed hreturn (List.forall_mem_nil _) hescape
  unfold doubleQuotedChar
  split_ifs with hself hfeed hreturn htab hback hform hcontrol
  · rw [Bool.or_eq_true, decide_eq_true_iff, decide_eq_true_iff] at hself
    rcases hself with rfl | rfl
    · exact hsimple rfl (by decide) (by decide) fun _ _ => rfl
    · exact hsimple rfl (by decide) (by decide) fun _ _ => rfl
  · exact hsimple hfeed (by decide) (by decide) fun _ _ => rfl
  · exact hsimple hreturn (by decide) (by decide) fun _ _ => rfl
  · exact hsimple htab (by decide) (by decide) fun _ _ => rfl
  · exact hsimple hback (by decide) (by decide) fun _ _ => rfl
  · exact hsimple hform (by decide) (by decide) fun _ _ => rfl
  · obtain ⟨hlength, _, hplain⟩ := hexDigits_of_lt_space c.toNat hcontrol
    refine .escape (by decide) (by decide) (by simpa using hplain) fun named cs => ?_
    rw [hlength]
    exact codeEscape?_hexDigits hcontrol cs
  · rw [Bool.or_eq_true, not_or, decide_eq_true_iff, decide_eq_true_iff] at hself
    exact .itself ⟨hself.1, hfeed, hreturn, hself.2⟩

theorem null_not_mem_doubleQuotedChar (c : Char) : '\x00' ∉ doubleQuotedChar c := by
  unfold doubleQuotedChar
  split_ifs with hself _ _ _ _ _ hcontrol
  · rw [Bool.or_eq_true, decide_eq_true_iff, decide_eq_true_iff] at hself
    rcases hself with rfl | rfl <;> decide
  iterate 5 decide
  · have hdigits : ∀ code < 0x20, '\x00' ∉ hexDigits 4 code := by decide
    exact List.not_mem_cons_of_ne_of_not_mem (by decide)
      (List.not_mem_cons_of_ne_of_not_mem (by decide) (hdigits c.toNat hcontrol))
  · rw [List.mem_singleton]
    rintro rfl
    exact hcontrol (by decide)

theorem toList_doubleQuoted_append (s back : String) :
    (doubleQuoted s ++ back).toList = '"' :: s.toList.flatMap doubleQuotedChar ++ '"' :: back.toList := by
  rw [String.toList_append, doubleQuoted, String.toList_ofList, List.append_assoc, List.singleton_append]

end Text

/-! ### Tokens -/

section Read

variable {named : List Char → Option Nat}

theorem head?_ne_of_continues {back : String} (h : Source.Continues back) : back.toList.head? ≠ some '"' := by
  obtain ⟨c, rest, heq, hc⟩ := h
  rw [heq]
  simpa using hc

theorem read_verbatim {name back : String} (hname : IsVerbatim name.toList) (hback : Source.Continues back) :
    read named (Source.literal name ++ back).toList = literal (codePoints name) :: read named back.toList := by
  rw [Source.toList_literal_append]
  exact read_literal ((read?_eq_some_iff_isVerbatim (head?_ne_of_continues hback)).mpr hname)

theorem read_doubleQuoted {back : String} (value : String) (hback : Source.Continues back) :
    read named (Text.doubleQuoted value ++ back).toList =
      literal (codePoints value) :: read named back.toList := by
  rw [Text.toList_doubleQuoted_append]
  exact read_literal (read?_flatMap Text.encodes_doubleQuotedChar Text.null_not_mem_doubleQuotedChar
    value.toList (head?_ne_of_continues hback))

theorem read_values (values : List String) (back : String) :
    read named (String.join (values.map fun value => Text.doubleQuoted value ++ ", ") ++ back).toList =
      (values.map codePoints).flatMap (fun codes => [literal codes, symbol ',']) ++
        read named back.toList := by
  induction values with
  | nil => simp
  | cons value values ih =>
      have hcomma : ∀ next : String, read named (", " ++ next).toList = symbol ',' :: read named next.toList := by
        intro next
        rw [String.toList_append]
        rfl
      have hnext : Source.Continues ", " := ⟨',', [' '], rfl, by decide⟩
      rw [List.map_cons, String.join_cons, String.append_assoc, String.append_assoc,
        read_doubleQuoted value (hnext.append _), hcomma, ih]
      rfl

end Read

/-! ### Expressions -/

namespace Enumeration

variable {e : Enumeration} {named : List Char → Option Nat}

/-- The tokens in front of the arguments. -/
def callee : List Token :=
  [word "sa".toList, symbol '.', word "Enum".toList, symbol '(']

def keywordArguments (declared : String) (e : Enumeration) : List (List Char × List Nat) :=
  ("name".toList, codePoints declared) ::
    e.schema.toList.map fun schema => ("schema".toList, codePoints schema)

/-- The arguments behind those without a keyword. -/
def keywordPart (declared : String) (e : Enumeration) : String :=
  Source.literal declared ++ e.schemaPart ++ ")"

theorem read_expression (he : e.values ≠ []) (declared : String) :
    read named (e.expression declared).toList =
      callee ++ ((e.values.map codePoints).flatMap (fun codes => [literal codes, symbol ',']) ++
        word "name".toList :: symbol '=' :: read named (e.keywordPart declared).toList) := by
  have hopen : ∀ cs, read named ("sa.Enum(".toList ++ cs) = callee ++ read named cs := fun _ => rfl
  have hname : ∀ cs, read named ("name=".toList ++ cs) = word "name".toList :: symbol '=' :: read named cs :=
    fun _ => rfl
  have hlead : ", name=" = ", " ++ "name=" := by decide
  have hvalues : e.valueList ++ ", " =
      String.join (e.values.map fun value => Text.doubleQuoted value ++ ", ") := by
    rw [valueList, intercalate_append_separator ", " (by simpa using he), List.map_map]
    rfl
  have hexpression : e.expression declared =
      "sa.Enum(" ++ (String.join (e.values.map fun value => Text.doubleQuoted value ++ ", ") ++
        ("name=" ++ e.keywordPart declared)) := by
    rw [expression_eq, hlead, ← hvalues, keywordPart]
    simp only [String.append_assoc]
  rw [hexpression, String.toList_append, hopen, read_values, String.toList_append, hname]

theorem read_schemaPart (hschema : ∀ schema, e.schema = some schema → IsVerbatim schema.toList) :
    read named (e.schemaPart ++ ")").toList =
      (e.schema.toList.flatMap fun schema =>
        [symbol ',', word "schema".toList, symbol '=', literal (codePoints schema)]) ++ [symbol ')'] := by
  unfold schemaPart
  cases heq : e.schema with
  | none => rfl
  | some schema =>
      have hopen : ∀ cs, read named (", schema=".toList ++ cs) =
          symbol ',' :: word "schema".toList :: symbol '=' :: read named cs := fun _ => rfl
      have hclose : Source.Continues ")" := ⟨')', [], rfl, by decide⟩
      rw [String.append_assoc, String.toList_append, hopen, read_verbatim (hschema schema heq) hclose]
      rfl

theorem keywords?_keywordPart (hdeclared : IsVerbatim declared.toList)
    (hschema : ∀ schema, e.schema = some schema → IsVerbatim schema.toList) :
    keywords? (word "name".toList :: symbol '=' :: read named (e.keywordPart declared).toList) =
      some (e.keywordArguments declared, []) := by
  rw [keywordPart, String.append_assoc, read_verbatim hdeclared (continues_schemaPart e),
    read_schemaPart hschema, keywordArguments]
  cases e.schema with
  | none => rfl
  | some schema => rfl

theorem head?_keywordPart (declared : String) (e : Enumeration) :
    (read named (e.keywordPart declared).toList).head? ≠ some (symbol '=') := by
  -- The name is not escaped, so of the tokens behind its keyword only the first is known.
  rw [keywordPart, String.append_assoc, Source.toList_literal_append]
  exact head?_read_quote _ '='

/-- The expression is read as a call: its positional arguments are the values, and its keyword arguments are
read if they are verbatim. -/
theorem exists_arguments (he : e.values ≠ []) (declared : String) :
    ∃ arguments rest, read named (e.expression declared).toList = callee ++ arguments ∧
      positional? arguments = some (e.values.map codePoints, word "name".toList :: symbol '=' :: rest) ∧
      (IsVerbatim declared.toList → (∀ schema, e.schema = some schema → IsVerbatim schema.toList) →
        arguments? arguments = some (e.values.map codePoints, e.keywordArguments declared)) := by
  have hpositional := positional?_literals (e.values.map codePoints)
    (positional?_keyword "name".toList (@head?_keywordPart named declared e))
  refine ⟨_, _, read_expression he declared, hpositional, ?_⟩
  intro hdeclared hschema
  rw [arguments?, hpositional]
  simp only [keywords?_keywordPart hdeclared hschema]

/-! ### Declarations -/

/-- A custom type declares an enumeration that has values. -/
def Declares (name : String) (t : CustomType) : Prop :=
  t.kind = .enumeration ∧ t.name = name ∧ t.values ≠ []

def declaredBy (t : CustomType) : Enumeration :=
  ⟨t.values, nonEmpty t.schema⟩

variable {t : CustomType} {name : String}

theorem ofCustomType?_eq_some_iff : ofCustomType? t = some (name, e) ↔ Declares name t ∧ e = declaredBy t := by
  unfold ofCustomType? Declares
  split_ifs with h
  · rw [Bool.and_eq_true, decide_eq_true_iff, Bool.not_eq_true', List.isEmpty_eq_false_iff] at h
    simp only [Option.map_eq_some_iff, LooseText.text?_eq_some_iff, Prod.mk.injEq]
    constructor
    · rintro ⟨_, hname, rfl, rfl⟩
      exact ⟨⟨h.1, hname, h.2⟩, rfl⟩
    · rintro ⟨⟨_, hname, _⟩, rfl⟩
      exact ⟨name, hname, rfl, rfl⟩
  · constructor
    · intro hnone
      cases hnone
    · rintro ⟨⟨hkind, _, hvalues⟩, _⟩
      simp [hkind, hvalues] at h

theorem lookup_ofCustomTypes (earlier : List CustomType) {later : List CustomType} (ht : Declares name t)
    (hlater : ∀ t' ∈ later, ¬ Declares name t') :
    (ofCustomTypes (earlier ++ t :: later)).lookup name = some (declaredBy t) := by
  have hsome := ofCustomType?_eq_some_iff.mpr ⟨ht, rfl⟩
  refine Entries.lookup_ofList_eq_some_iff.mpr
    ⟨earlier.filterMap ofCustomType?, later.filterMap ofCustomType?, ?_, ?_⟩
  · rw [List.filterMap_append, List.filterMap_cons_some hsome]
  · rintro ⟨name', e⟩ hentry rfl
    obtain ⟨t', ht', heq⟩ := List.mem_filterMap.mp hentry
    exact hlater t' ht' (ofCustomType?_eq_some_iff.mp heq).1

end Enumeration

theorem Field.exists_column_of_lookup {f : Field} {types : TypeContext} {e : Enumeration}
    (h : types.enumerations.lookup f.type.name = some e) (compositeKey : Bool) (foreignKey : Option Endpoint) :
    ∃ c, f.column types compositeKey foreignKey = .ok c ∧
      c.arguments.head? = some (e.expression f.type.name) := by
  have hexpression : (types.columnType f.type.name).expression f = .ok (e.expression f.type.name) := by
    rw [TypeContext.columnType, h]
    rfl
  exact ⟨_, column_eq_ok_iff.mpr ⟨_, hexpression, rfl⟩, rfl⟩

/-- **Values of enumerations.** The last declaration of a name as an enumeration with values counts, whatever
other types are declared with that name. A column of that type has an expression whose positional arguments are
read as the values of that declaration, in their order, whatever characters they have. If the name and the
schema are verbatim, then the whole call is read, with them as its keyword arguments. -/
theorem Enumeration.declared_values_read {types : List CustomType} {f : Field}
    (h : ∃ t ∈ types, Declares f.type.name t) (database : DatabaseType) :
    ∃ earlier t later text, types = earlier ++ t :: later ∧ Declares f.type.name t ∧
      (∀ t' ∈ later, ¬ Declares f.type.name t') ∧
      (∀ compositeKey foreignKey, ∃ c,
        f.column ⟨database, ofCustomTypes types⟩ compositeKey foreignKey = .ok c ∧
          c.arguments.head? = some text) ∧
      ∀ named, ∃ arguments rest, read named text.toList = callee ++ arguments ∧
        positional? arguments = some (t.values.map codePoints, word "name".toList :: symbol '=' :: rest) ∧
        (IsVerbatim f.type.name.toList →
          (∀ schema, nonEmpty t.schema = some schema → IsVerbatim schema.toList) →
          arguments? arguments =
            some (t.values.map codePoints, keywordArguments f.type.name (declaredBy t))) := by
  obtain ⟨earlier, t, later, rfl, ht, hlater⟩ := exists_last h
  refine ⟨earlier, t, later, (declaredBy t).expression f.type.name, rfl, ht, hlater, ?_, ?_⟩
  · exact Field.exists_column_of_lookup (lookup_ofCustomTypes earlier ht hlater)
  · intro named
    exact exists_arguments ht.2.2 f.type.name

namespace Boutique

open Enumeration

def earlierSizes : CustomType := { name := "size", values := ["S"] }

def sizes : CustomType :=
  { name := "size", values := ["S, \"small\"", "\\", "", "größer\n\x01"], schema := some "shop" }

/-- Types of the same name that are no enumerations with values. -/
def otherSizes : List CustomType :=
  [{ name := "size", kind := .composite, values := ["width"] }, { name := "size", values := [] }]

def size : Field := { id := "s", name := "size", type := ⟨"size", none⟩ }

/-- Quotes, a comma, a backslash, an empty value and control characters are all read back. -/
theorem sizes_read_back :
    ∃ c text, c.arguments.head? = some text ∧
      size.column ⟨.postgresql, ofCustomTypes ([earlierSizes] ++ sizes :: otherSizes)⟩ false none = .ok c ∧
      ∀ named, ∃ arguments, read named text.toList = callee ++ arguments ∧
        arguments? arguments = some (["S, \"small\"", "\\", "", "größer\n\x01"].map codePoints,
          [("name".toList, codePoints "size"), ("schema".toList, codePoints "shop")]) := by
  have hsizes : Declares "size" sizes := ⟨rfl, rfl, by decide⟩
  have hothers : ∀ t ∈ otherSizes, ¬ Declares "size" t := by
    simp [otherSizes, Declares]
  have hverbatim : ∀ name ∈ ["size", "shop"], IsVerbatim name.toList := by
    intro name hname
    apply (@read?_eq_some_iff_isVerbatim (fun _ => none) name.toList [] (by decide)).mp
    revert name
    decide
  obtain ⟨earlier, t, later, text, htypes, ht, hlater, hcolumn, hread⟩ :=
    declared_values_read (f := size) ⟨sizes, List.mem_append_right [earlierSizes] List.mem_cons_self, hsizes⟩
      .postgresql
  obtain ⟨rfl, _⟩ := eq_of_append_cons_eq_of_forall_not ht hsizes hlater hothers htypes.symm
  obtain ⟨c, hc, htext⟩ := hcolumn false none
  refine ⟨c, text, htext, hc, fun named => ?_⟩
  obtain ⟨arguments, _, htokens, _, harguments⟩ := hread named
  refine ⟨arguments, htokens, harguments (hverbatim "size" (by decide)) ?_⟩
  rintro schema hschema
  obtain rfl := Option.some.inj hschema
  exact hverbatim "shop" (by decide)

end Boutique

end SchemaScribe
