import SchemaScribe.Proofs.CaseMappings
import SchemaScribe.Proofs.Names

/-!
# Plural names

A name that ends in "s", in either letter case, is its own plural. Every other plural is longer than its name
and starts like it. So the attribute for many rows of a table and the attribute for one of them have the same
name exactly if the name of the table is a plural already. Every plural ends in "s", so it is made only once.
-/

namespace SchemaScribe.Naming

open Text

/-- In lower case, the name ends in "s". -/
def IsPlural (name : String) : Prop :=
  ['s'] <:+ lowerChars name.toList

instance (name : String) : Decidable (IsPlural name) :=
  inferInstanceAs (Decidable (_ <:+ _))

theorem lowerChars_singleton (c : Char) : lowerChars [c] = ['σ'] ∨ lowerChars [c] = lowerChar c := by
  by_cases hsigma : c = 'Σ'
  · subst hsigma
    exact Or.inl rfl
  · rw [lowerChars, lowerAfter, if_neg hsigma]
    exact Or.inr (List.append_nil _)

theorem endsInConsonantY_singleton (c : Char) : endsInConsonantY [c] = false := by
  simp [endsInConsonantY, startsWithConsonantY]

/-- A single character can become two in lower case, but these are no consonant with a y. -/
theorem two_le_length_of_endsInConsonantY {cs : List Char} (h : endsInConsonantY (lowerChars cs) = true) :
    2 ≤ cs.length := by
  rcases cs with _ | ⟨c, _ | ⟨d, rest⟩⟩
  · exact absurd h (by decide)
  · have hone : ∀ d, ¬ endsInConsonantY [d] = true := by
      intro d
      rw [endsInConsonantY_singleton]
      exact Bool.false_ne_true
    rcases lowerChars_singleton c with hlower | hlower
    · rw [hlower] at h
      exact absurd h (hone _)
    · rw [hlower] at h
      rcases lowerChar_cases c with ⟨d, hd⟩ | hdotted
      · rw [hd] at h
        exact absurd h (hone d)
      · rw [hdotted] at h
        exact absurd h (by decide)
  · simp

theorem pluralChars_cases (name : List Char) :
    ['s'] <:+ lowerChars name ∧ pluralChars name = name ∨
      ¬ ['s'] <:+ lowerChars name ∧
        (pluralChars name = name ++ ['e', 's'] ∨ pluralChars name = name ++ ['s'] ∨
          2 ≤ name.length ∧ pluralChars name = name.dropLast ++ ['i', 'e', 's']) := by
  unfold pluralChars
  simp only [List.isSuffixOf_iff_suffix]
  by_cases hplural : ['s'] <:+ lowerChars name
  · rw [if_pos hplural]
    exact Or.inl ⟨hplural, rfl⟩
  · rw [if_neg hplural]
    refine Or.inr ⟨hplural, ?_⟩
    cases hsibilant : endsInSibilant (lowerChars name) with
    | true => exact Or.inl rfl
    | false =>
        cases hy : endsInConsonantY (lowerChars name) with
        | true => exact Or.inr (Or.inr ⟨two_le_length_of_endsInConsonantY hy, rfl⟩)
        | false => exact Or.inr (Or.inl rfl)

theorem exists_pluralChars_cons (c : Char) (rest : List Char) :
    ∃ back, pluralChars (c :: rest) = c :: back := by
  rcases pluralChars_cases (c :: rest) with ⟨_, h⟩ | ⟨_, h | h | ⟨hlength, h⟩⟩
  · exact ⟨rest, h⟩
  · exact ⟨_, h⟩
  · exact ⟨_, h⟩
  · cases rest with
    | nil => simp at hlength
    | cons d rest => exact ⟨_, h⟩

theorem pluralChars_of_isSuffix {name : List Char} (h : ['s'] <:+ lowerChars name) : pluralChars name = name := by
  rcases pluralChars_cases name with ⟨_, hsame⟩ | ⟨hnot, _⟩
  · exact hsame
  · exact absurd h hnot

/-- Every plural that is made is longer than the name. -/
theorem length_pluralChars_eq_iff {name : List Char} :
    (pluralChars name).length = name.length ↔ ['s'] <:+ lowerChars name := by
  rcases pluralChars_cases name with ⟨hplural, h⟩ | ⟨hplural, h | h | ⟨_, h⟩⟩
  · simp [h, hplural]
  · simp [h, hplural]
  · simp [h, hplural]
  · rw [h, List.length_append, List.length_dropLast]
    simp only [hplural, iff_false, List.length_cons, List.length_nil]
    omega

theorem toList_collectionAttribute (name : String) :
    (collectionAttribute name).toList = (pluralChars name.toList).map sanitizeChar := by
  rw [collectionAttribute, toList_sanitize, pluralize, String.toList_ofList]

/-- The attributes for many rows and for one row have the same name exactly if the name of the table is a
plural. -/
theorem collectionAttribute_eq_scalarAttribute_iff {name : String} :
    collectionAttribute name = scalarAttribute name ↔ IsPlural name := by
  rw [← String.toList_inj, toList_collectionAttribute, scalarAttribute, toList_sanitize]
  constructor
  · intro h
    have hlength := congrArg List.length h
    simp only [List.length_map] at hlength
    exact length_pluralChars_eq_iff.mp hlength
  · intro hplural
    rw [pluralChars_of_isSuffix hplural]

/-! ### Plurals of plurals -/

/-- The name ends in "s" as it is spelled, in either letter case. -/
def EndsInS (name : String) : Prop :=
  name.toList.getLast? = some 's' ∨ name.toList.getLast? = some 'S'

theorem isPlural_iff_endsInS {name : String} : IsPlural name ↔ EndsInS name :=
  s_isSuffix_lowerChars_iff

theorem pluralize_eq_self_iff {name : String} : pluralize name = name ↔ IsPlural name := by
  rw [pluralize, ← String.toList_inj, String.toList_ofList]
  constructor
  · intro h
    exact length_pluralChars_eq_iff.mp (congrArg List.length h)
  · exact pluralChars_of_isSuffix

/-- A name that is no plural gets an "s" at its end. -/
theorem endsInS_pluralize (name : String) : EndsInS (pluralize name) := by
  by_cases hplural : IsPlural name
  · rw [pluralize_eq_self_iff.mpr hplural]
    exact isPlural_iff_endsInS.mp hplural
  · left
    rw [pluralize, String.toList_ofList]
    rcases pluralChars_cases name.toList with ⟨h, _⟩ | ⟨_, h | h | ⟨_, h⟩⟩
    · exact absurd h hplural
    · rw [h]
      exact List.getLast?_append_of_ne_nil _ (by decide)
    · rw [h]
      exact List.getLast?_append_of_ne_nil _ (by decide)
    · rw [h]
      exact List.getLast?_append_of_ne_nil _ (by decide)

theorem endsInS_sanitize {name : String} (h : EndsInS name) : EndsInS (sanitize name) := by
  unfold EndsInS
  rw [toList_sanitize, List.getLast?_map]
  rcases h with h | h
  · rw [h]
    exact Or.inl (by decide)
  · rw [h]
    exact Or.inr (by decide)

theorem endsInS_collectionAttribute (name : String) : EndsInS (collectionAttribute name) :=
  endsInS_sanitize (endsInS_pluralize name)

theorem collectionAttribute_eq_self_iff {name : String} :
    collectionAttribute name = name ↔ EndsInS name ∧ IsPlain name := by
  constructor
  · intro h
    rw [← h]
    exact ⟨endsInS_collectionAttribute name, isPlain_sanitize _⟩
  · rintro ⟨hlast, hplain⟩
    rw [collectionAttribute, pluralize_eq_self_iff.mpr (isPlural_iff_endsInS.mpr hlast)]
    exact sanitize_eq_self_iff.mpr hplain

/-- **Plural names.** A plural is its own plural and ends in "s", and so does the name of the attribute for many
rows, which consists of ASCII letters, digits and underscores besides. That attribute is named like the one for a
single row exactly if the name of the table ends in "s" in lower case, that is if it is its own plural. -/
theorem plural_names_stable (name : String) :
    (pluralize (pluralize name) = pluralize name ∧ EndsInS (pluralize name)) ∧
    (collectionAttribute (collectionAttribute name) = collectionAttribute name ∧
      EndsInS (collectionAttribute name) ∧ IsPlain (collectionAttribute name)) ∧
    (collectionAttribute name = scalarAttribute name ↔ ['s'] <:+ (lower name).toList) ∧
    (pluralize name = name ↔ ['s'] <:+ (lower name).toList) := by
  have hplural := endsInS_pluralize name
  have hcollection := endsInS_collectionAttribute name
  have hplain : IsPlain (collectionAttribute name) := isPlain_sanitize _
  rw [toList_lower]
  exact ⟨⟨pluralize_eq_self_iff.mpr (isPlural_iff_endsInS.mpr hplural), hplural⟩,
    ⟨collectionAttribute_eq_self_iff.mpr ⟨hcollection, hplain⟩, hcollection, hplain⟩,
    collectionAttribute_eq_scalarAttribute_iff, pluralize_eq_self_iff⟩

end SchemaScribe.Naming
