import SchemaScribe.Proofs.Letters
import SchemaScribe.Proofs.NameWords
import SchemaScribe.Proofs.PluralNames

/-!
# Which names are identifiers

The names of attributes are sanitized, so they are identifiers unless they begin with a digit. The name of a
class only loses its separators. It is an identifier exactly if the name of the table has a word, the first
one does not begin with a digit, and there is no other punctuation in any of them.
-/

namespace SchemaScribe.Naming

open Text

/-- A letter or digit of any script, or an underscore. -/
def IsWordCharacter (c : Char) : Prop :=
  isLetter c = true ∨ isDecimalDigit c = true ∨ c = '_'

instance (c : Char) : Decidable (IsWordCharacter c) :=
  inferInstanceAs (Decidable (_ ∨ _ ∨ _))

@[mk_iff]
structure IsIdentifier (name : String) : Prop where
  head : ∃ c ∈ name.toList.head?, isDecimalDigit c = false
  word : ∀ c ∈ name.toList, IsWordCharacter c

instance (name : String) : Decidable (IsIdentifier name) :=
  decidable_of_iff ((name.toList.head?.any (!isDecimalDigit ·) && name.toList.all (IsWordCharacter ·)) = true) <| by
    rw [isIdentifier_iff, Bool.and_eq_true, Option.any_eq_true, List.all_eq_true]
    simp

/-! ### Class names -/

theorem exists_head?_pascalCase_iff {name : String} :
    (∃ c ∈ (pascalCase name).toList.head?, isDecimalDigit c = false) ↔
      ∃ c rest later, words name.toList = (c :: rest) :: later ∧ isDecimalDigit c = false := by
  rw [toList_pascalCase]
  cases hwords : words name.toList with
  | nil => simp
  | cons word later =>
      cases word with
      | nil =>
          have hmem : [] ∈ words name.toList := by
            rw [hwords]
            exact List.mem_cons_self
          exact absurd rfl (ne_nil_of_mem_words hmem)
      | cons c rest =>
          obtain ⟨d, capital, hcapital, hdigit⟩ := exists_upperChar_cons c
          rw [List.flatMap_cons, capitalized, hcapital, List.cons_append, List.cons_append, List.head?_cons]
          simp [hdigit]

theorem isIdentifier_pascalCase_iff {name : String} :
    IsIdentifier (pascalCase name) ↔
      (∃ c rest later, words name.toList = (c :: rest) :: later ∧ isDecimalDigit c = false) ∧
        ∀ word ∈ words name.toList, ∀ c ∈ capitalized word, IsWordCharacter c := by
  rw [isIdentifier_iff, exists_head?_pascalCase_iff, toList_pascalCase]
  simp only [List.mem_flatMap, forall_exists_index, and_imp]
  rw [and_congr_right_iff]
  intro _
  exact ⟨fun h word hword c hc => h c word hword hc, fun h c word hword hc => h word hword c hc⟩

/-! ### Attribute names -/

theorem isWordCharacter_of_isIdentifierChar {c : Char} (h : isIdentifierChar c = true) : IsWordCharacter c := by
  have hletter : ∀ {first last : Char}, (first.toNat, last.toNat) ∈ letterRanges → first ≤ c → c ≤ last →
      isLetter c = true := by
    intro first last hrange hfirst hlast
    unfold isLetter inRanges
    rw [List.any_eq_true]
    refine ⟨_, hrange, ?_⟩
    rw [Bool.and_eq_true, decide_eq_true_eq, decide_eq_true_eq]
    exact ⟨hfirst, hlast⟩
  rcases isIdentifierChar_iff.mp h with (⟨hfirst, hlast⟩ | ⟨hfirst, hlast⟩ | ⟨hfirst, hlast⟩) | hunderscore
  · exact Or.inl (hletter (List.mem_cons_of_mem _ List.mem_cons_self) hfirst hlast)
  · exact Or.inl (hletter List.mem_cons_self hfirst hlast)
  · refine Or.inr (Or.inl (isDecimalDigit_iff.mpr (mem_digitCodes_iff.mpr ⟨0x30, List.mem_cons_self, ?_⟩)))
    exact ⟨hfirst, hlast⟩
  · exact Or.inr (Or.inr hunderscore)

theorem isDecimalDigit_sanitizeChar (c : Char) : isDecimalDigit (sanitizeChar c) = c.isDigit := by
  by_cases hc : IsAlphanumeric c
  · have hascii : c.toNat < 0x80 := by
      have hlast : c.toNat ≤ 'z'.toNat := by
        rcases hc with ⟨_, hlast⟩ | ⟨_, hlast⟩ | ⟨_, hlast⟩
        · exact hlast
        · exact Nat.le_trans (show c.toNat ≤ 'Z'.toNat from hlast) (by decide)
        · exact Nat.le_trans (show c.toNat ≤ '9'.toNat from hlast) (by decide)
      exact Nat.lt_of_le_of_lt hlast (by decide)
    rw [sanitizeChar_of_isAlphanumeric hc, isDecimalDigit_of_lt hascii]
  · have hdigit : ¬ c.isDigit = true := by
      intro hdigit
      simp only [Char.isDigit, Bool.and_eq_true, decide_eq_true_eq] at hdigit
      exact hc (Or.inr (Or.inr hdigit))
    rw [sanitizeChar_of_not_isAlphanumeric hc, Bool.eq_false_iff.mpr hdigit]
    decide

/-- A text of sanitized characters is an identifier unless it is empty or begins with an ASCII digit. -/
theorem isIdentifier_of_sanitized {name : String} {cs : List Char} (h : name.toList = cs.map sanitizeChar) :
    IsIdentifier name ↔ ∃ c ∈ cs.head?, c.isDigit = false := by
  have hword : ∀ c ∈ name.toList, IsWordCharacter c := by
    intro c hc
    rw [h] at hc
    obtain ⟨original, _, rfl⟩ := List.mem_map.mp hc
    exact isWordCharacter_of_isIdentifierChar (isIdentifierChar_sanitizeChar original)
  rw [isIdentifier_iff, and_iff_left hword, h]
  cases cs with
  | nil => simp
  | cons c cs => simp [isDecimalDigit_sanitizeChar]

theorem isIdentifier_sanitize_iff {name : String} :
    IsIdentifier (sanitize name) ↔ ∃ c ∈ name.toList.head?, c.isDigit = false :=
  isIdentifier_of_sanitized (toList_sanitize name)

/-- The plural begins like the name, and that of the empty name is "s". -/
theorem isIdentifier_collectionAttribute_iff {name : String} :
    IsIdentifier (collectionAttribute name) ↔ ∀ c ∈ name.toList.head?, c.isDigit = false := by
  rw [isIdentifier_of_sanitized (toList_collectionAttribute name)]
  cases name.toList with
  | nil =>
      have hplural : pluralChars [] = ['s'] := by decide
      rw [hplural]
      exact iff_of_true ⟨'s', rfl, by decide⟩ (by simp)
  | cons c cs =>
      obtain ⟨back, hplural⟩ := exists_pluralChars_cons c cs
      rw [hplural]
      simp

/-- **Identifiers.** A class name is an identifier exactly if the name of its table has a word, the first word does
not begin with a digit, and the words consist of word characters once each has its capital form. The names of
attributes are identifiers unless they begin with an ASCII digit. Of the empty name only the plural is one. -/
theorem derived_names_isIdentifier_iff (name : String) :
    (IsIdentifier (pascalCase name) ↔
      (∃ c rest later, words name.toList = (c :: rest) :: later ∧ isDecimalDigit c = false) ∧
        ∀ word ∈ words name.toList, ∀ c ∈ capitalized word, IsWordCharacter c) ∧
    (IsIdentifier (sanitize name) ↔ ∃ c ∈ name.toList.head?, c.isDigit = false) ∧
    (IsIdentifier (scalarAttribute name) ↔ ∃ c ∈ name.toList.head?, c.isDigit = false) ∧
    (IsIdentifier (collectionAttribute name) ↔ ∀ c ∈ name.toList.head?, c.isDigit = false) :=
  ⟨isIdentifier_pascalCase_iff, isIdentifier_sanitize_iff, isIdentifier_sanitize_iff,
    isIdentifier_collectionAttribute_iff⟩

/-- Where attributes have an underscore for a full stop, classes keep it. Names of separators only have no class
name, and names that begin with a digit have no identifier at all. -/
theorem order_items_no_identifier :
    (pascalCase "order.items" = "Order.items" ∧ ¬ IsIdentifier (pascalCase "order.items") ∧
      sanitize "order.items" = "order_items" ∧ IsIdentifier (sanitize "order.items") ∧
      IsIdentifier (scalarAttribute "order.items") ∧ IsIdentifier (collectionAttribute "order.items")) ∧
    (pascalCase "__" = "" ∧ ¬ IsIdentifier (pascalCase "__") ∧ IsIdentifier (sanitize "__")) ∧
    ¬ IsIdentifier (pascalCase "2fa") ∧ ¬ IsIdentifier (sanitize "2fa") ∧
      ¬ IsIdentifier (scalarAttribute "2fa") ∧ ¬ IsIdentifier (collectionAttribute "2fa") := by
  decide +kernel

end SchemaScribe.Naming
