import Mathlib.Data.List.Basic
import SchemaScribe.Naming

/-!
# The words of a name

Separators cut a name into words. A class name is what is left without them, where each word has its first
character in capital form.
-/

namespace SchemaScribe.Naming

open Text

/-- The words of a text: its longest pieces without separators. -/
def words (cs : List Char) : List (List Char) :=
  (cs.splitOnP isSeparator).filter (· ≠ [])

def capitalized : List Char → List Char
  | [] => []
  | c :: cs => upperChar c ++ cs

theorem ne_nil_of_mem_words {cs word : List Char} (h : word ∈ words cs) : word ≠ [] := by
  simpa using (List.mem_filter.mp h).2

/-- Whether the first piece continues a word or starts one, all others start one. -/
theorem pascalFrom_eq (cs : List Char) :
    ∃ first rest, cs.splitOnP isSeparator = first :: rest ∧
      pascalFrom false cs = first ++ rest.flatMap capitalized ∧
      pascalFrom true cs = (first :: rest).flatMap capitalized := by
  induction cs with
  | nil => exact ⟨[], [], List.splitOnP_nil, rfl, rfl⟩
  | cons c cs ih =>
      obtain ⟨first, rest, hsplit, hcontinued, hstarted⟩ := ih
      rw [List.splitOnP_cons_eq_if_modifyHead, hsplit]
      by_cases hc : isSeparator c = true
      · refine ⟨[], first :: rest, if_pos hc, ?_, ?_⟩
        · rw [pascalFrom, if_pos hc, hstarted, List.nil_append]
        · rw [pascalFrom, if_pos hc, hstarted]
          rfl
      · refine ⟨c :: first, rest, if_neg hc, ?_, ?_⟩
        · rw [pascalFrom, if_neg hc, hcontinued]
          rfl
        · rw [pascalFrom, if_neg hc, hcontinued, List.flatMap_cons, capitalized, List.append_assoc]
          rfl

theorem flatMap_capitalized_filter (pieces : List (List Char)) :
    (pieces.filter (· ≠ [])).flatMap capitalized = pieces.flatMap capitalized := by
  induction pieces with
  | nil => rfl
  | cons piece pieces ih =>
      cases piece with
      | nil => exact ih
      | cons c cs =>
          rw [List.filter_cons_of_pos (by simp), List.flatMap_cons, List.flatMap_cons, ih]

theorem toList_pascalCase (name : String) :
    (pascalCase name).toList = (words name.toList).flatMap capitalized := by
  obtain ⟨first, rest, hsplit, _, hstarted⟩ := pascalFrom_eq name.toList
  rw [pascalCase, String.toList_ofList, hstarted, words, hsplit, flatMap_capitalized_filter]

end SchemaScribe.Naming
