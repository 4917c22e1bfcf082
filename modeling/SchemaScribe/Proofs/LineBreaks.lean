import Mathlib.Data.List.TakeWhile
import Mathlib.Tactic.Common
import SchemaScribe.Text.Blank
import SchemaScribe.Text.Search

/-!
# Line breaks, trimming and lines

Replacing line breaks treats a line feed alike with and without a carriage return in front of it, and leaves
every other carriage return where it is. It does not matter whether a text is trimmed before or after. Cutting
at line feeds is undone by joining.
-/

namespace SchemaScribe.Text

variable {c r : Char} {cs : List Char} {p : Char → Bool}

/-! ### Carriage returns -/

/-- Every carriage return belongs to the line feed behind it. -/
def ReturnsPaired (cs : List Char) : Prop :=
  ∀ front back, cs = front ++ '\r' :: back → back.head? = some '\n'

theorem returnsPaired_cons_iff :
    ReturnsPaired (c :: cs) ↔ (c = '\r' → cs.head? = some '\n') ∧ ReturnsPaired cs := by
  constructor
  · intro h
    refine ⟨?_, ?_⟩
    · rintro rfl
      exact h [] cs rfl
    · intro front back heq
      exact h (c :: front) back (by rw [heq]; rfl)
  · rintro ⟨hhead, hcs⟩ front back heq
    cases front with
    | nil =>
        obtain ⟨rfl, rfl⟩ := List.cons.inj heq
        exact hhead rfl
    | cons d front => exact hcs front back (List.cons.inj heq).2

theorem replaceLineBreaks_cons (h : c = '\r' → cs.head? ≠ some '\n') :
    replaceLineBreaks r (c :: cs) = (if c = '\n' then r else c) :: replaceLineBreaks r cs := by
  rw [replaceLineBreaks]
  rintro rest rfl rfl
  exact h rfl rfl

theorem replaceLineBreaks_eq_nil_iff : replaceLineBreaks r cs = [] ↔ cs = [] := by
  unfold replaceLineBreaks
  split <;> simp

theorem eq_or_mem_of_mem_replaceLineBreaks {x : Char} (h : x ∈ replaceLineBreaks r cs) : x = r ∨ x ∈ cs := by
  fun_induction replaceLineBreaks r cs with
  | case1 cs ih =>
      rcases List.mem_cons.mp h with heq | h
      · exact Or.inl heq
      · exact (ih h).imp_right fun hmem => List.mem_cons_of_mem _ (List.mem_cons_of_mem _ hmem)
  | case2 c cs _ ih =>
      rcases List.mem_cons.mp h with heq | h
      · split at heq
        · exact Or.inl heq
        · exact Or.inr (heq ▸ List.mem_cons_self)
      · exact (ih h).imp_right fun hmem => List.mem_cons_of_mem c hmem
  | case3 => exact absurd h List.not_mem_nil

theorem unifyLineEnds_eq_self (h : '\r' ∉ cs) : unifyLineEnds cs = cs := by
  fun_induction unifyLineEnds cs with
  | case1 cs _ => exact absurd List.mem_cons_self h
  | case2 c cs _ ih =>
      rw [List.mem_cons, not_or] at h
      rw [if_neg (Ne.symm h.1), ih h.2]
  | case3 => rfl

theorem return_not_mem_replaceLineBreaks_iff (hr : r ≠ '\r') :
    '\r' ∉ replaceLineBreaks r cs ↔ ReturnsPaired cs := by
  fun_induction replaceLineBreaks r cs with
  | case1 cs ih =>
      rw [List.mem_cons, not_or, ih, returnsPaired_cons_iff, returnsPaired_cons_iff]
      simp [Ne.symm hr]
  | case2 c cs hpair ih =>
      rw [List.mem_cons, not_or, ih, returnsPaired_cons_iff, and_congr_left_iff]
      intro _
      by_cases hc : c = '\r'
      · have hhead : cs.head? ≠ some '\n' := by
          intro hhead
          obtain ⟨rest, rfl⟩ := List.head?_eq_some_iff.mp hhead
          exact hpair rest hc rfl
        simp [hc, hhead]
      · split
        · simp [hc, Ne.symm hr]
        · simp [hc, Ne.symm hc]
  | case3 => simp [ReturnsPaired]

/-! ### Trimming -/

theorem dropEndWhile_cons :
    dropEndWhile p (c :: cs) =
      if dropEndWhile p cs = [] ∧ p c = true then [] else c :: dropEndWhile p cs := by
  unfold dropEndWhile
  rw [List.reverse_cons, List.dropWhile_append]
  cases hrest : cs.reverse.dropWhile p with
  | nil => by_cases hc : p c = true <;> simp [hc]
  | cons d rest => simp

theorem dropEndWhile_eq_nil_iff : dropEndWhile p cs = [] ↔ ∀ c ∈ cs, p c = true := by
  unfold dropEndWhile
  rw [List.reverse_eq_nil_iff, List.dropWhile_eq_nil_iff]
  simp only [List.mem_reverse]

theorem head?_dropEndWhile (h : dropEndWhile p cs ≠ []) : (dropEndWhile p cs).head? = cs.head? := by
  cases cs with
  | nil => rfl
  | cons c cs =>
      rw [dropEndWhile_cons] at h ⊢
      split
      · rw [if_pos ‹_›] at h
        exact absurd rfl h
      · rfl

theorem trimBy_eq_nil_iff : trimBy p cs = [] ↔ ∀ c ∈ cs, p c = true := by
  rw [trimBy, dropEndWhile_eq_nil_iff]
  constructor
  · intro h c hc
    rw [← List.takeWhile_append_dropWhile (p := p) (l := cs), List.mem_append] at hc
    rcases hc with hc | hc
    · exact List.mem_takeWhile_imp hc
    · exact h c hc
  · intro h c hc
    exact h c ((List.dropWhile_suffix p).mem hc)

section Replaced

variable (hreturn : p '\r' = true) (hfeed : p '\n' = true) (hr : p r = true)

include hreturn hfeed hr

theorem dropWhile_replaceLineBreaks :
    (replaceLineBreaks r cs).dropWhile p = replaceLineBreaks r (cs.dropWhile p) := by
  fun_induction replaceLineBreaks r cs with
  | case1 cs ih =>
      rw [List.dropWhile_cons_of_pos hr, List.dropWhile_cons_of_pos hreturn,
        List.dropWhile_cons_of_pos hfeed, ih]
  | case2 c cs hpair ih =>
      by_cases hc : p c = true
      · have hreplaced : p (if c = '\n' then r else c) = true := by
          split
          · exact hr
          · exact hc
        rw [List.dropWhile_cons_of_pos hreplaced, List.dropWhile_cons_of_pos hc, ih]
      · have hne : c ≠ '\n' := fun heq => hc (heq ▸ hfeed)
        have hne' : c ≠ '\r' := fun heq => hc (heq ▸ hreturn)
        rw [if_neg hne, List.dropWhile_cons_of_neg hc, List.dropWhile_cons_of_neg hc,
          replaceLineBreaks_cons (fun heq => absurd heq hne'), if_neg hne]
  | case3 => rfl

theorem dropEndWhile_replaceLineBreaks :
    dropEndWhile p (replaceLineBreaks r cs) = replaceLineBreaks r (dropEndWhile p cs) := by
  fun_induction replaceLineBreaks r cs with
  | case1 cs ih =>
      rw [dropEndWhile_cons, ih, dropEndWhile_cons, dropEndWhile_cons]
      by_cases hcs : dropEndWhile p cs = []
      · simp [hcs, hr, hfeed, hreturn, replaceLineBreaks]
      · simp [hcs, replaceLineBreaks_eq_nil_iff, replaceLineBreaks]
  | case2 c cs hpair ih =>
      rw [dropEndWhile_cons, ih, dropEndWhile_cons]
      simp only [replaceLineBreaks_eq_nil_iff]
      have hp : p (if c = '\n' then r else c) = p c := by
        split
        · rw [hr, ‹c = '\n'›, hfeed]
        · rfl
      rw [hp]
      by_cases hcs : dropEndWhile p cs = [] ∧ p c = true
      · rw [if_pos hcs, if_pos hcs, replaceLineBreaks]
      · rw [if_neg hcs, if_neg hcs, replaceLineBreaks_cons]
        intro hc hhead
        -- A line feed in front of what is left would stand in front of the whole.
        rw [head?_dropEndWhile (by rintro hempty; simp [hempty] at hhead)] at hhead
        obtain ⟨rest, rfl⟩ := List.head?_eq_some_iff.mp hhead
        exact hpair rest hc rfl
  | case3 => rfl

theorem trimBy_replaceLineBreaks : trimBy p (replaceLineBreaks r cs) = replaceLineBreaks r (trimBy p cs) := by
  rw [trimBy, trimBy, dropWhile_replaceLineBreaks hreturn hfeed hr,
    dropEndWhile_replaceLineBreaks hreturn hfeed hr]

end Replaced

/-! ### Lines -/

section Pieces

variable {separator x : Char}

theorem splitOn_ne_nil (separator : Char) (cs : List Char) : splitOn separator cs ≠ [] := by
  unfold splitOn
  split
  · simp
  · split
    · simp
    · split <;> simp

theorem exists_splitOn_cons (hc : c ≠ separator) (cs : List Char) :
    ∃ piece pieces, splitOn separator cs = piece :: pieces ∧
      splitOn separator (c :: cs) = (c :: piece) :: pieces := by
  cases hpieces : splitOn separator cs with
  | nil => exact absurd hpieces (splitOn_ne_nil separator cs)
  | cons piece pieces =>
      refine ⟨piece, pieces, rfl, ?_⟩
      rw [splitOn, if_neg hc, hpieces]

theorem joinWith_splitOn (separator : Char) (cs : List Char) :
    joinWith [separator] (splitOn separator cs) = cs := by
  induction cs with
  | nil => rfl
  | cons c cs ih =>
      by_cases hc : c = separator
      · rw [splitOn, if_pos hc, joinWith, ih, hc]
        · rfl
        · exact splitOn_ne_nil separator cs
      · obtain ⟨piece, pieces, hpieces, hcons⟩ := exists_splitOn_cons hc cs
        rw [hpieces] at ih
        rw [hcons, ← ih]
        cases pieces <;> rfl

theorem separator_not_mem_of_mem_splitOn {piece : List Char} (h : piece ∈ splitOn separator cs) :
    separator ∉ piece := by
  induction cs generalizing piece with
  | nil =>
      rw [List.mem_singleton.mp h]
      exact List.not_mem_nil
  | cons c cs ih =>
      by_cases hc : c = separator
      · rw [splitOn, if_pos hc, List.mem_cons] at h
        rcases h with rfl | h
        · exact List.not_mem_nil
        · exact ih h
      · obtain ⟨first, pieces, hpieces, hcons⟩ := exists_splitOn_cons hc cs
        rw [hpieces] at ih
        rw [hcons, List.mem_cons] at h
        rcases h with rfl | h
        · exact List.not_mem_cons_of_ne_of_not_mem (Ne.symm hc) (ih List.mem_cons_self)
        · exact ih (List.mem_cons_of_mem _ h)

theorem exists_mem_splitOn_iff (hx : x ≠ separator) : (∃ piece ∈ splitOn separator cs, x ∈ piece) ↔ x ∈ cs := by
  induction cs with
  | nil => simp [splitOn]
  | cons c cs ih =>
      rw [List.mem_cons, ← ih]
      by_cases hc : c = separator
      · rw [splitOn, if_pos hc]
        simp [hc, hx]
      · obtain ⟨first, pieces, hpieces, hcons⟩ := exists_splitOn_cons hc cs
        rw [hcons, hpieces]
        simp [or_assoc]

end Pieces

end SchemaScribe.Text
