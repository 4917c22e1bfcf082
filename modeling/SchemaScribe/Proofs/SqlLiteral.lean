import SchemaScribe.Proofs.ServerDefaultLiteral

/-!
# Defaults as literals of SQL

A literal of SQL stands between single quotes, and each single quote of its value is written twice. A default
between double quotes is put between single ones as it is. So the SQL text is a literal with the same value
exactly if the default has no single quote: the first one ends the literal, or is read as one quote together
with the next.
-/

namespace SchemaScribe

namespace SqlLiteral

def doubleQuotes (value : List Char) : List Char :=
  value.flatMap fun c => if c = '\'' then ['\'', '\''] else [c]

/-- The value of a body and the text behind the quote that closes it. -/
def close? : List Char → Option (List Char × List Char)
  | '\'' :: '\'' :: cs => (close? cs).map (Prod.map ('\'' :: ·) id)
  | '\'' :: cs => some ([], cs)
  | c :: cs => (close? cs).map (Prod.map (c :: ·) id)
  | [] => none

/-- The value of the literal that starts here, and the text behind it. -/
def read? : List Char → Option (List Char × List Char)
  | '\'' :: cs => close? cs
  | _ => none

variable {c : Char} {cs value back : List Char}

theorem doubleQuotes_cons (c : Char) (cs : List Char) :
    doubleQuotes (c :: cs) = (if c = '\'' then ['\'', '\''] else [c]) ++ doubleQuotes cs :=
  List.flatMap_cons

theorem length_doubleQuotes (cs : List Char) : (doubleQuotes cs).length = cs.length + cs.count '\'' := by
  induction cs with
  | nil => rfl
  | cons c cs ih =>
      rw [doubleQuotes_cons, List.length_append, ih, List.length_cons, List.count_cons]
      by_cases hc : c = '\''
      · simp only [hc, if_true, List.length_cons, List.length_nil, beq_self_eq_true]
        omega
      · simp only [hc, if_false, List.length_cons, List.length_nil, beq_iff_eq]
        omega

theorem doubleQuotes_eq_self_iff : doubleQuotes cs = cs ↔ '\'' ∉ cs := by
  constructor
  · intro h
    have hlength := congrArg List.length h
    rw [length_doubleQuotes] at hlength
    exact List.count_eq_zero.mp (by omega)
  · intro h
    induction cs with
    | nil => rfl
    | cons c cs ih =>
        rw [List.mem_cons, not_or] at h
        rw [doubleQuotes_cons, if_neg (Ne.symm h.1), ih h.2]
        rfl

theorem close?_cons (hc : c ≠ '\'') : close? (c :: cs) = (close? cs).map (Prod.map (c :: ·) id) := by
  rw [close?]
  · rintro rest rfl
    exact absurd rfl hc
  · rintro rfl
    exact absurd rfl hc

theorem eq_of_close?_eq_some (h : close? cs = some (value, back)) :
    cs = doubleQuotes value ++ '\'' :: back ∧ back.head? ≠ some '\'' := by
  fun_induction close? cs generalizing value with
  | case1 cs ih =>
      obtain ⟨⟨rest, back'⟩, hrest, heq⟩ := Option.map_eq_some_iff.mp h
      obtain ⟨rfl, rfl⟩ := Prod.mk.inj heq
      obtain ⟨rfl, hback⟩ := ih hrest
      exact ⟨rfl, hback⟩
  | case2 cs hnext =>
      obtain ⟨rfl, rfl⟩ := Prod.mk.inj (Option.some.inj h)
      refine ⟨rfl, ?_⟩
      intro hhead
      obtain ⟨rest, hrest⟩ := List.head?_eq_some_iff.mp hhead
      exact hnext rest hrest
  | case3 c cs _ hquote ih =>
      obtain ⟨⟨rest, back'⟩, hrest, heq⟩ := Option.map_eq_some_iff.mp h
      obtain ⟨rfl, rfl⟩ := Prod.mk.inj heq
      obtain ⟨rfl, hback⟩ := ih hrest
      have hc : c ≠ '\'' := hquote
      refine ⟨?_, hback⟩
      change _ = doubleQuotes (c :: rest) ++ _
      rw [doubleQuotes_cons, if_neg hc]
      rfl
  | case4 => cases h

theorem close?_doubleQuotes (hback : back.head? ≠ some '\'') :
    close? (doubleQuotes value ++ '\'' :: back) = some (value, back) := by
  induction value with
  | nil =>
      change close? ('\'' :: back) = _
      rw [close?]
      rintro rest rfl
      exact hback rfl
  | cons c value ih =>
      rw [doubleQuotes_cons]
      by_cases hc : c = '\''
      · rw [if_pos hc, hc, List.append_assoc]
        change close? ('\'' :: '\'' :: (doubleQuotes value ++ '\'' :: back)) = _
        rw [close?, ih]
        rfl
      · rw [if_neg hc, List.append_assoc, List.singleton_append, close?_cons hc, ih]
        rfl

/-- Reading accepts exactly the literal of each value, unless a quote follows that would belong to it. -/
theorem read?_eq_some_iff :
    read? cs = some (value, back) ↔
      cs = '\'' :: (doubleQuotes value ++ '\'' :: back) ∧ back.head? ≠ some '\'' := by
  constructor
  · intro h
    unfold read? at h
    split at h
    · obtain ⟨rfl, hback⟩ := eq_of_close?_eq_some h
      exact ⟨rfl, hback⟩
    · cases h
  · rintro ⟨rfl, hback⟩
    exact close?_doubleQuotes hback

/-- A text between single quotes is read as itself exactly if it has none. -/
theorem read?_between_quotes_iff : read? ('\'' :: value ++ ['\'']) = some (value, []) ↔ '\'' ∉ value := by
  rw [read?_eq_some_iff, ← doubleQuotes_eq_self_iff]
  constructor
  · rintro ⟨h, _⟩
    exact (List.append_cancel_right (List.cons.inj h).2).symm
  · intro h
    rw [h]
    exact ⟨rfl, by simp⟩

end SqlLiteral

namespace ServerDefault

open Text StringLiteral

variable {inner : List Char}

/-- The text has the name of the current time in it, in any letter case. -/
def ContainsCurrentTimestamp (value : List Char) : Prop :=
  ∃ front word back, value = front ++ (word ++ back) ∧ Spells "current_timestamp".toList word

instance (value : List Char) : Decidable (ContainsCurrentTimestamp value) :=
  decidable_of_iff _ containsBy_iff

theorem namesCurrentTime_doubleQuoted_iff :
    NamesCurrentTime ('"' :: inner ++ ['"']) ↔ ContainsCurrentTimestamp ('"' :: inner ++ ['"']) := by
  have hcall : ¬ Spells "now()".toList ('"' :: inner ++ ['"']) := by
    intro h
    cases h with
    | cons hletter _ => exact absurd hletter (by decide)
  rw [NamesCurrentTime, or_iff_right hcall]
  rfl

theorem read?_sqlText_doubleQuoted_iff :
    SqlLiteral.read? (sqlText ('"' :: inner ++ ['"'])) = some (inner, []) ↔
      ¬ ContainsCurrentTimestamp ('"' :: inner ++ ['"']) ∧ '\'' ∉ inner := by
  rw [← namesCurrentTime_doubleQuoted_iff]
  by_cases htime : NamesCurrentTime ('"' :: inner ++ ['"'])
  · have hnone : SqlLiteral.read? "CURRENT_TIMESTAMP".toList = none := by decide
    rw [sqlText_of_namesCurrentTime htime, hnone]
    exact ⟨nofun, fun h => absurd htime h.1⟩
  · rw [sqlText_of_form_quotedText (form_doubleQuoted htime), SqlLiteral.read?_between_quotes_iff]
    exact ⟨fun h => ⟨htime, h⟩, And.right⟩

/-- **Quoted defaults.** The SQL text for a default between double quotes is one literal of SQL for the text
between them exactly if the default does not name the current time and that text has no single quote. -/
theorem quoted_default_literal_iff {default : String}
    (h : trimBy isBlank default.toList = '"' :: inner ++ ['"']) :
    ∃ body sql : List Char, expression default = "sa.text(\"" ++ String.ofList body ++ "\")" ∧
      (∀ back, close? (body ++ '"' :: back) = some (body, back)) ∧
      (∀ named, decode? named body = some (sql.map Char.toNat)) ∧
      (SqlLiteral.read? sql = some (inner, []) ↔
        ¬ ContainsCurrentTimestamp ('"' :: inner ++ ['"']) ∧ '\'' ∉ inner) := by
  refine ⟨_, _, expression_eq default, close?_escape _, fun _ => decode?_escape _, ?_⟩
  rw [h]
  exact read?_sqlText_doubleQuoted_iff

/-- A word between double quotes becomes the literal for it. -/
theorem draft_becomes_literal :
    ∃ body sql : List Char, expression "\"draft\"" = "sa.text(\"" ++ String.ofList body ++ "\")" ∧
      (∀ back, close? (body ++ '"' :: back) = some (body, back)) ∧
      (∀ named, decode? named body = some (sql.map Char.toNat)) ∧
      SqlLiteral.read? sql = some ("draft".toList, []) := by
  have htrim : trimBy isBlank "\"draft\"".toList = '"' :: "draft".toList ++ ['"'] := by decide
  obtain ⟨body, sql, hexpression, hclose, hdecode, hliteral⟩ := quoted_default_literal_iff htrim
  exact ⟨body, sql, hexpression, hclose, hdecode, hliteral.mpr (by decide)⟩

/-- An apostrophe between the double quotes ends the literal, and the rest of the text is left over. -/
theorem apostrophe_ends_literal :
    trimBy isBlank "\"it's\"".toList = '"' :: "it's".toList ++ ['"'] ∧
      ¬ ContainsCurrentTimestamp ('"' :: "it's".toList ++ ['"']) ∧
      expression "\"it's\"" = "sa.text(\"'it's'\")" ∧
      (∀ named, decode? named "'it's'".toList = some ("'it's'".toList.map Char.toNat)) ∧
      SqlLiteral.read? "'it's'".toList = some ("it".toList, "s'".toList) :=
  ⟨by decide, by decide, rfl, fun _ => rfl, by decide⟩

end ServerDefault

end SchemaScribe
