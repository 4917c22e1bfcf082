import Mathlib.Data.List.Forall2
import Mathlib.Tactic.SplitIfs
import SchemaScribe.Text.Case
import SchemaScribe.Text.Search

/-!
# Words in texts

A text is searched for a word at its start and at every later place, so a word is found exactly if the text has
it as a piece. Lower-casing goes through a text from its start. It looks ahead only for the final form of
sigma, so what is put behind a text makes no difference to it unless that begins with a letter.
-/

namespace SchemaScribe.Text

/-! ### Finding words -/

section Search

variable {same : Char → Char → Bool} {word cs rest : List Char}

theorem dropWord?_eq_some_iff :
    dropWord? same word cs = some rest ↔
      ∃ front, cs = front ++ rest ∧ List.Forall₂ (fun w c => same w c = true) word front := by
  induction word generalizing cs with
  | nil =>
      constructor
      · intro h
        exact ⟨[], Option.some.inj h, .nil⟩
      · rintro ⟨front, rfl, hfront⟩
        cases hfront
        rfl
  | cons w word ih =>
      constructor
      · intro h
        cases cs with
        | nil => cases h
        | cons c cs =>
            rw [dropWord?] at h
            split_ifs at h with hsame
            obtain ⟨front, rfl, hfront⟩ := ih.mp h
            exact ⟨c :: front, rfl, .cons hsame hfront⟩
      · rintro ⟨front, rfl, hfront⟩
        cases hfront with
        | cons hsame hfront =>
            rw [List.cons_append, dropWord?, if_pos hsame]
            exact ih.mpr ⟨_, rfl, hfront⟩

theorem isSome_dropWord?_iff :
    (dropWord? same word cs).isSome = true ↔
      ∃ found back, cs = found ++ back ∧ List.Forall₂ (fun w c => same w c = true) word found := by
  rw [Option.isSome_iff_exists, exists_comm]
  simp only [dropWord?_eq_some_iff]

theorem containsBy_iff :
    containsBy same word cs = true ↔
      ∃ front found back, cs = front ++ (found ++ back) ∧
        List.Forall₂ (fun w c => same w c = true) word found := by
  induction cs with
  | nil =>
      rw [containsBy, isSome_dropWord?_iff]
      constructor
      · rintro ⟨found, back, hcs, hfound⟩
        exact ⟨[], found, back, hcs, hfound⟩
      · rintro ⟨front, found, back, hcs, hfound⟩
        exact ⟨found, back, (List.append_eq_nil_iff.mp hcs.symm).2.symm, hfound⟩
  | cons c cs ih =>
      rw [containsBy, Bool.or_eq_true, isSome_dropWord?_iff, ih]
      constructor
      · rintro (⟨found, back, hcs, hfound⟩ | ⟨front, found, back, rfl, hfound⟩)
        · exact ⟨[], found, back, hcs, hfound⟩
        · exact ⟨c :: front, found, back, rfl, hfound⟩
      · rintro ⟨front, found, back, hcs, hfound⟩
        cases front with
        | nil => exact Or.inl ⟨found, back, hcs, hfound⟩
        | cons d front => exact Or.inr ⟨front, found, back, (List.cons.inj hcs).2, hfound⟩

theorem contains_iff : contains word cs = true ↔ word <:+: cs := by
  have hsame : ∀ found : List Char, List.Forall₂ (fun w c => (w == c) = true) word found ↔ word = found := by
    intro found
    simp only [beq_iff_eq]
    exact Iff.of_eq (congrFun₂ List.forall₂_eq_eq_eq word found)
  rw [contains, containsBy_iff]
  simp only [hsame]
  constructor
  · rintro ⟨front, found, back, rfl, rfl⟩
    exact ⟨front, back, List.append_assoc _ _ _⟩
  · rintro ⟨front, back, rfl⟩
    exact ⟨front, word, back, List.append_assoc _ _ _, rfl⟩

end Search

/-! ### Lower case -/

section LowerCase

variable {tail : List Char}

theorem startsCased_cons (c : Char) (cs : List Char) :
    startsCased (c :: cs) =
      if inRanges caseIgnorableRanges c.toNat then startsCased cs else inRanges casedRanges c.toNat := by
  unfold startsCased
  rw [List.dropWhile_cons]
  split_ifs <;> rfl

/-- What stands behind a text is not looked at if no cased letter comes first in it. -/
theorem startsCased_append (h : startsCased tail = false) (cs : List Char) :
    startsCased (cs ++ tail) = startsCased cs := by
  induction cs with
  | nil => exact h
  | cons c cs ih => rw [List.cons_append, startsCased_cons, startsCased_cons, ih]

theorem lowerAfter_append (h : startsCased tail = false) (before cs : List Char) :
    lowerAfter before (cs ++ tail) = lowerAfter before cs ++ lowerAfter (cs.reverse ++ before) tail := by
  induction cs generalizing before with
  | nil => rfl
  | cons c cs ih =>
      rw [List.cons_append, lowerAfter, lowerAfter, startsCased_append h, ih, List.append_assoc,
        List.reverse_cons, List.append_assoc, List.singleton_append]

/-- What is put behind a text stays as it is if it is its own lower-case form and no cased letter comes first
in it. -/
theorem lowerChars_append_of_fixed (hcased : startsCased tail = false)
    (hfixed : ∀ before, lowerAfter before tail = tail) (cs : List Char) :
    lowerChars (cs ++ tail) = lowerChars cs ++ tail := by
  rw [lowerChars, lowerAfter_append hcased, hfixed, lowerChars]

theorem lower_append_brackets (s : String) : lower (s ++ "[]") = lower s ++ "[]" := by
  have hcased : startsCased "[]".toList = false := by decide +kernel
  have hbrackets : lowerChars (s.toList ++ "[]".toList) = lowerChars s.toList ++ "[]".toList :=
    lowerChars_append_of_fixed hcased (fun _ => rfl) s.toList
  rw [lower, String.toList_append, hbrackets, String.ofList_append, String.ofList_toList, lower]

end LowerCase

end SchemaScribe.Text
