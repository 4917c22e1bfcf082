import SchemaScribe.Naming
import SchemaScribe.Proofs.Lists

/-!
# When two names become one

Sanitizing keeps ASCII letters and digits and makes an underscore of everything else. So it keeps two
names apart unless they differ only in characters that it does not keep. The name of an association table
ends in a number behind an underscore, and that number survives.
-/

namespace SchemaScribe.Naming

/-- An ASCII letter or digit. -/
def IsAlphanumeric (c : Char) : Prop :=
  ('a' ≤ c ∧ c ≤ 'z') ∨ ('A' ≤ c ∧ c ≤ 'Z') ∨ ('0' ≤ c ∧ c ≤ '9')

/-- Two characters are the same, or neither is a letter or digit. -/
def SameOrBothMarks (c d : Char) : Prop :=
  c = d ∨ (¬ IsAlphanumeric c ∧ ¬ IsAlphanumeric d)

theorem not_isAlphanumeric_underscore : ¬ IsAlphanumeric '_' := by
  unfold IsAlphanumeric
  decide

theorem isIdentifierChar_iff {c : Char} :
    isIdentifierChar c = true ↔ IsAlphanumeric c ∨ c = '_' := by
  unfold isIdentifierChar IsAlphanumeric
  simp only [Bool.or_eq_true, Bool.and_eq_true, decide_eq_true_eq, or_assoc]

theorem sanitizeChar_of_isAlphanumeric {c : Char} (hc : IsAlphanumeric c) : sanitizeChar c = c := by
  rw [sanitizeChar, if_pos (isIdentifierChar_iff.mpr (Or.inl hc))]

theorem sanitizeChar_of_not_isAlphanumeric {c : Char} (hc : ¬ IsAlphanumeric c) :
    sanitizeChar c = '_' := by
  unfold sanitizeChar
  split
  · rename_i h
    exact (isIdentifierChar_iff.mp h).resolve_left hc
  · rfl

theorem sanitizeChar_eq_iff {c d : Char} : sanitizeChar c = sanitizeChar d ↔ SameOrBothMarks c d := by
  unfold SameOrBothMarks
  by_cases hc : IsAlphanumeric c
  · by_cases hd : IsAlphanumeric d
    · rw [sanitizeChar_of_isAlphanumeric hc, sanitizeChar_of_isAlphanumeric hd]
      simp [hc]
    · rw [sanitizeChar_of_isAlphanumeric hc, sanitizeChar_of_not_isAlphanumeric hd]
      have hne : c ≠ '_' := fun h => not_isAlphanumeric_underscore (h ▸ hc)
      have hne' : c ≠ d := fun h => hd (h ▸ hc)
      simp [hc, hne, hne']
  · by_cases hd : IsAlphanumeric d
    · rw [sanitizeChar_of_not_isAlphanumeric hc, sanitizeChar_of_isAlphanumeric hd]
      have hne : '_' ≠ d := fun h => not_isAlphanumeric_underscore (h ▸ hd)
      have hne' : c ≠ d := fun h => hc (h ▸ hd)
      simp [hd, hne, hne']
    · rw [sanitizeChar_of_not_isAlphanumeric hc, sanitizeChar_of_not_isAlphanumeric hd]
      simp [hc, hd]

/-- Sanitizing makes one name of two exactly if they are equally long and differ, place by place, only
where neither has a letter or digit. -/
theorem sanitize_eq_iff {left right : String} :
    sanitize left = sanitize right ↔ List.Forall₂ SameOrBothMarks left.toList right.toList := by
  unfold sanitize
  rw [String.ofList_inj, ← List.forall₂_eq_eq_eq, List.forall₂_map_left_iff,
    List.forall₂_map_right_iff]
  simp only [sanitizeChar_eq_iff]

theorem toList_sanitize (name : String) : (sanitize name).toList = name.toList.map sanitizeChar := by
  unfold sanitize
  rw [String.toList_ofList]

/-- The name consists of ASCII letters, digits and underscores. -/
def IsPlain (name : String) : Prop :=
  ∀ c ∈ name.toList, isIdentifierChar c = true

instance (name : String) : Decidable (IsPlain name) :=
  decidable_of_iff (name.toList.all isIdentifierChar = true) List.all_eq_true

theorem isIdentifierChar_sanitizeChar (c : Char) : isIdentifierChar (sanitizeChar c) = true := by
  by_cases hc : IsAlphanumeric c
  · rw [sanitizeChar_of_isAlphanumeric hc]
    exact isIdentifierChar_iff.mpr (Or.inl hc)
  · rw [sanitizeChar_of_not_isAlphanumeric hc]
    exact isIdentifierChar_iff.mpr (Or.inr rfl)

theorem isPlain_sanitize (name : String) : IsPlain (sanitize name) := by
  intro c hc
  rw [toList_sanitize] at hc
  obtain ⟨original, _, rfl⟩ := List.mem_map.mp hc
  exact isIdentifierChar_sanitizeChar original

theorem sanitize_eq_self_iff {name : String} : sanitize name = name ↔ IsPlain name := by
  constructor
  · intro h
    rw [← h]
    exact isPlain_sanitize name
  · intro h
    have hchars : ∀ c ∈ name.toList, sanitizeChar c = c := by
      intro c hc
      rw [sanitizeChar, if_pos (h c hc)]
    rw [sanitize, List.map_congr_left hchars, List.map_id', String.ofList_toList]

theorem map_sanitizeChar_toDigits (n : Nat) :
    (Nat.toDigits 10 n).map sanitizeChar = Nat.toDigits 10 n := by
  have hdigit : ∀ c ∈ Nat.toDigits 10 n, sanitizeChar c = c := by
    intro c hc
    have hdigit := Nat.isDigit_of_mem_toDigits (by decide) (by decide) hc
    apply sanitizeChar_of_isAlphanumeric
    simp only [Char.isDigit, Bool.and_eq_true, decide_eq_true_eq] at hdigit
    exact Or.inr (Or.inr hdigit)
  rw [List.map_congr_left hdigit, List.map_id']

theorem toList_associationName (mark left right : String) (ordinal : Nat) :
    (associationName mark left right ordinal).toList =
      (mark.toList ++ '_' :: left.toList ++ '_' :: right.toList).map sanitizeChar ++
        '_' :: Nat.toDigits 10 ordinal := by
  have hunderscore : sanitizeChar '_' = '_' :=
    sanitizeChar_of_not_isAlphanumeric not_isAlphanumeric_underscore
  have hname : (s!"{mark}_{left}_{right}_{(ordinal : Int)}").toList =
      mark.toList ++ '_' :: left.toList ++ '_' :: right.toList ++ '_' :: Nat.toDigits 10 ordinal := by
    change (mark ++ "_" ++ left ++ "_" ++ right ++ "_" ++ Nat.repr ordinal).toList = _
    simp only [String.toList_append, Nat.toList_repr]
    simp
  rw [associationName, toList_sanitize, hname, List.map_append, List.map_cons, hunderscore,
    map_sanitizeChar_toDigits]

/-- Names of association tables with different numbers are different, whatever tables they join. -/
theorem ordinal_eq_of_associationName_eq {mark left right mark' left' right' : String} {i j : Nat}
    (h : associationName mark left right i = associationName mark' left' right' j) : i = j := by
  have happend := congrArg String.toList h
  rw [toList_associationName, toList_associationName] at happend
  have hdigits : Nat.toDigits 10 i = Nat.toDigits 10 j :=
    eq_of_append_cons_eq Nat.underscore_not_in_toDigits Nat.underscore_not_in_toDigits happend
  have hnumber := congrArg (fun digits => Nat.ofDigitChars 10 digits 0) hdigits
  simpa only [Nat.ofDigitChars_ten_toDigits] using hnumber

end SchemaScribe.Naming
