import SchemaScribe.Column.ServerDefault
import SchemaScribe.Proofs.StringLiteral
import SchemaScribe.Proofs.Words

/-!
# What a server default denotes

A server default is a call with one literal. Escaping is undone by reading: the literal ends at the quote that
was put behind it, and its value is the SQL text of the default. That is the declared text, except for the
current time and for a text between double quotes.
-/

namespace SchemaScribe.ServerDefault

open Text StringLiteral

/-! ### Escaping is undone by reading -/

section Escape

variable {named : List Char → Option Nat}

theorem encodes_escapeChar (c : Char) : Encodes c (escapeChar c) := by
  by_cases hself : c = '\\' ∨ c = '"'
  · rcases hself with rfl | rfl
    · exact .escape (by decide) (by decide) (List.forall_mem_nil _) fun _ _ => rfl
    · exact .escape (by decide) (by decide) (List.forall_mem_nil _) fun _ _ => rfl
  · rw [not_or] at hself
    by_cases hfeed : c = '\n'
    · subst hfeed
      exact .escape (by decide) (by decide) (List.forall_mem_nil _) fun _ _ => rfl
    · by_cases hreturn : c = '\r'
      · subst hreturn
        exact .escape (by decide) (by decide) (List.forall_mem_nil _) fun _ _ => rfl
      · have heq : escapeChar c = [c] := by simp [escapeChar, hself, hfeed, hreturn]
        rw [heq]
        exact .itself ⟨hself.2, hfeed, hreturn, hself.1⟩

theorem ne_lineEnd_of_mem_escape {c : Char} {cs : List Char} (h : c ∈ escape cs) : c ≠ '\n' ∧ c ≠ '\r' := by
  obtain ⟨d, _, hc⟩ := List.mem_flatMap.mp h
  exact ne_lineEnd_of_encodes (encodes_escapeChar d) hc

theorem close?_escape (cs back : List Char) :
    close? (escape cs ++ '"' :: back) = some (escape cs, back) :=
  close?_flatMap encodes_escapeChar cs back

theorem decode?_escape (cs : List Char) : decode? named (escape cs) = some (cs.map Char.toNat) :=
  decode?_flatMap encodes_escapeChar cs

end Escape

/-! ### The SQL text -/

/-- The characters spell a word when letter case is ignored. -/
def Spells (word cs : List Char) : Prop :=
  List.Forall₂ (fun letter c => foldsTo letter c = true) word cs

/-- The text is a call for the current time, or it contains its name. -/
def NamesCurrentTime (value : List Char) : Prop :=
  Spells "now()".toList value ∨
    ∃ front word back, value = front ++ (word ++ back) ∧ Spells "current_timestamp".toList word

/-- The SQL text that a declared text stands for. -/
inductive StandsFor : List Char → List Char → Prop where
  | currentTime {value : List Char} (h : NamesCurrentTime value) : StandsFor value "CURRENT_TIMESTAMP".toList
  | doubleQuoted {inner : List Char} (h : ¬ NamesCurrentTime ('"' :: inner ++ ['"'])) :
      StandsFor ('"' :: inner ++ ['"']) ('\'' :: inner ++ ['\''])
  | itself {value : List Char} (h : ¬ NamesCurrentTime value)
      (hquoted : ∀ inner, value ≠ '"' :: inner ++ ['"']) : StandsFor value value

theorem isWord_iff {word value : List Char} : isWord word value = true ↔ Spells word value := by
  rw [isWord, decide_eq_true_iff, dropWord?_eq_some_iff]
  constructor
  · rintro ⟨front, rfl, hfront⟩
    rwa [List.append_nil]
  · intro h
    exact ⟨value, (List.append_nil value).symm, h⟩

variable {value inner : List Char}

theorem namesCurrentTime_iff :
    NamesCurrentTime value ↔
      (isWord "now()".toList value || containsBy foldsTo "current_timestamp".toList value) = true := by
  rw [Bool.or_eq_true, isWord_iff, containsBy_iff]
  rfl

theorem isQuoted_iff :
    isQuoted value = true ↔ ∃ quote inner, (quote = '\'' ∨ quote = '"') ∧ value = quote :: inner ++ [quote] := by
  have hbetween : ∀ quote : Char, (2 ≤ value.length ∧ value.head? = some quote ∧ value.getLast? = some quote) ↔
      ∃ inner, value = quote :: inner ++ [quote] := by
    intro quote
    constructor
    · rintro ⟨hlength, hhead, hlast⟩
      obtain ⟨front, rfl⟩ := List.getLast?_eq_some_iff.mp hlast
      cases front with
      | nil => simp at hlength
      | cons c inner =>
          obtain rfl := Option.some.inj hhead
          exact ⟨inner, rfl⟩
    · rintro ⟨inner, rfl⟩
      exact ⟨by simp, rfl, List.getLast?_eq_some_iff.mpr ⟨_, rfl⟩⟩
  rw [isQuoted]
  simp only [Bool.and_eq_true, Bool.or_eq_true, decide_eq_true_iff, and_or_left, hbetween, or_and_right,
    exists_or, exists_and_left, exists_eq_left]

theorem isQuoted_of_form (hform : form value = .quotedText) : isQuoted value = true := by
  unfold form at hform
  split_ifs at hform with _ _ _ hquoted
  exact hquoted

theorem form_doubleQuoted (h : ¬ NamesCurrentTime ('"' :: inner ++ ['"'])) :
    form ('"' :: inner ++ ['"']) = .quotedText := by
  have hnumeric : isNumeric ('"' :: inner ++ ['"']) = false := by
    rw [isNumeric, List.cons_append, List.dropWhile_cons_of_neg (by decide)]
    rfl
  have hquoted : isQuoted ('"' :: inner ++ ['"']) = true :=
    isQuoted_iff.mpr ⟨'"', inner, Or.inr rfl, rfl⟩
  rw [namesCurrentTime_iff] at h
  rw [form, if_neg h, if_neg (by simp [dropWord?, foldsTo]), hnumeric, if_neg (by decide), if_pos hquoted]

theorem sqlText_of_form_quotedText {quote : Char} (hform : form (quote :: inner ++ [quote]) = .quotedText) :
    sqlText (quote :: inner ++ [quote]) = '\'' :: inner ++ ['\''] := by
  have hinner : ((quote :: inner ++ [quote]).drop 1).dropLast = inner := List.dropLast_concat
  rw [sqlText, hform, hinner]

theorem sqlText_of_namesCurrentTime (h : NamesCurrentTime value) :
    sqlText value = "CURRENT_TIMESTAMP".toList := by
  have hform : form value = .currentTimestamp := by
    rw [form, if_pos (namesCurrentTime_iff.mp h)]
  rw [sqlText, hform]

theorem standsFor_sqlText (value : List Char) : StandsFor value (sqlText value) := by
  by_cases htime : NamesCurrentTime value
  · rw [sqlText_of_namesCurrentTime htime]
    exact .currentTime htime
  · by_cases hdouble : ∃ inner, value = '"' :: inner ++ ['"']
    · obtain ⟨inner, rfl⟩ := hdouble
      rw [sqlText_of_form_quotedText (form_doubleQuoted htime)]
      exact .doubleQuoted htime
    · have hself : sqlText value = value := by
        cases hform : form value with
        | currentTimestamp =>
            unfold form at hform
            split_ifs at hform with hnow
            exact absurd (namesCurrentTime_iff.mpr hnow) htime
        | quotedText =>
            obtain ⟨quote, inner, rfl | rfl, rfl⟩ := isQuoted_iff.mp (isQuoted_of_form hform)
            · exact sqlText_of_form_quotedText hform
            · exact absurd ⟨inner, rfl⟩ hdouble
        | sequenceCall | numeric | expression => rw [sqlText, hform]
      rw [hself]
      exact .itself htime (not_exists.mp hdouble)

/-! ### The call -/

theorem expression_eq (default : String) :
    expression default =
      "sa.text(\"" ++ String.ofList (escape (sqlText (trimBy isBlank default.toList))) ++ "\")" := by
  have hliteral : ∀ s, Source.call "sa.text" [Source.literal s] [] = "sa.text(\"" ++ s ++ "\")" := by
    intro s
    have hopen : "sa.text(\"" = "sa.text" ++ "(" ++ "\"" := by decide
    have hclose : "\")" = "\"" ++ ")" := by decide
    have hliteral : Source.literal s = "\"" ++ s ++ "\"" := rfl
    rw [Source.call, hopen, hclose, List.map_nil, List.append_nil, String.intercalate_singleton, hliteral]
    simp only [String.append_assoc]
  exact hliteral _

/-- **Server defaults.** The expression for a declared default is a call with one literal. Its body has no
line end, the literal ends at the quote behind it whatever follows, and its value is the SQL text that the
trimmed default stands for. -/
theorem expression_denotes (default : String) :
    ∃ body text : List Char, expression default = "sa.text(\"" ++ String.ofList body ++ "\")" ∧
      '\n' ∉ body ∧ '\r' ∉ body ∧ (∀ back, close? (body ++ '"' :: back) = some (body, back)) ∧
      StandsFor (trimBy isBlank default.toList) text ∧
      ∀ named, decode? named body = some (text.map Char.toNat) := by
  refine ⟨_, _, expression_eq default, ?_, ?_, close?_escape _, standsFor_sqlText _,
    fun _ => decode?_escape _⟩
  · intro h
    exact (ne_lineEnd_of_mem_escape h).1 rfl
  · intro h
    exact (ne_lineEnd_of_mem_escape h).2 rfl

example : expression " \"C:\\temp\" " = "sa.text(\"'C:\\\\temp'\")" := by rfl

end SchemaScribe.ServerDefault
