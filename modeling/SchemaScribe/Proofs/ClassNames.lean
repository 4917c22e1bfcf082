import SchemaScribe.Proofs.CaseMappings
import SchemaScribe.Proofs.NameWords

/-!
# Class names

A class name consists of the words of a name, each with its first character in capital form. A capital form has
no separator in it and begins with a character that is its own capital form. So a class name is a single word,
which is its own class name; and a run of separators cuts a name into two parts whose class names are put side by
side, whichever separators it consists of.
-/

namespace SchemaScribe.Naming

open Text

/-! ### Separators and capital forms -/

def separatorCodes : List Nat :=
  '_'.toNat :: '-'.toNat :: blankCodes

theorem isSeparator_iff {c : Char} : isSeparator c = true ↔ c.toNat ∈ separatorCodes := by
  rw [isSeparator, Bool.or_eq_true, Bool.or_eq_true, decide_eq_true_eq, decide_eq_true_eq, isBlank_iff, separatorCodes,
    List.mem_cons, List.mem_cons, Char.toNat_inj, Char.toNat_inj, or_assoc]

theorem areDisjoint_capitalCodes_separatorCodes : areDisjoint capitalCodes separatorCodes = true := by
  decide +kernel

theorem isSeparator_of_mem_upperChar {c d : Char} (hc : isSeparator c = false) (hd : d ∈ upperChar c) :
    isSeparator d = false := by
  rcases upperChar_cases c with ⟨_, _, hcapital⟩ | hself
  · rw [Bool.eq_false_iff, ne_eq, isSeparator_iff]
    exact not_mem_of_areDisjoint areDisjoint_capitalCodes_separatorCodes (hcapital d hd)
  · rw [hself] at hd
    obtain rfl := List.mem_singleton.mp hd
    exact hc

/-! ### Words without separators -/

variable {cs : List Char}

theorem isSeparator_of_mem_pascalFrom {capitalise : Bool} {d : Char} (hd : d ∈ pascalFrom capitalise cs) :
    isSeparator d = false := by
  induction cs generalizing capitalise with
  | nil => exact absurd hd List.not_mem_nil
  | cons c cs ih =>
      rw [pascalFrom] at hd
      split at hd
      · exact ih hd
      · rename_i hc
        rcases List.mem_append.mp hd with hd | hd
        · cases capitalise with
          | true => exact isSeparator_of_mem_upperChar (Bool.eq_false_iff.mpr hc) hd
          | false =>
              obtain rfl := List.mem_singleton.mp hd
              exact Bool.eq_false_iff.mpr hc
        · exact ih hd

theorem pascalFrom_of_no_separator (h : ∀ c ∈ cs, isSeparator c = false) :
    pascalFrom false cs = cs ∧ pascalFrom true cs = capitalized cs := by
  induction cs with
  | nil => exact ⟨rfl, rfl⟩
  | cons c cs ih =>
      obtain ⟨hc, hcs⟩ := List.forall_mem_cons.mp h
      have hfalse := (ih hcs).1
      constructor
      · rw [pascalFrom, hc, if_neg Bool.false_ne_true, hfalse]
        rfl
      · rw [pascalFrom, hc, if_neg Bool.false_ne_true, hfalse]
        rfl

/-- What begins with a capital form is not changed by capitalizing it again. -/
theorem capitalized_pascalFrom (cs : List Char) : capitalized (pascalFrom true cs) = pascalFrom true cs := by
  induction cs with
  | nil => rfl
  | cons c cs ih =>
      rw [pascalFrom]
      split
      · exact ih
      · obtain ⟨d, rest, hupper, hcapital⟩ := exists_capital_upperChar c
        rw [if_pos rfl, hupper, List.cons_append, capitalized, hcapital]
        rfl

/-- Capitalizing what follows separators, and then the first character, capitalizes every word. -/
theorem capitalized_pascalFrom_false (cs : List Char) : capitalized (pascalFrom false cs) = pascalFrom true cs := by
  cases cs with
  | nil => rfl
  | cons c cs =>
      rw [pascalFrom, pascalFrom]
      split
      · exact capitalized_pascalFrom cs
      · rfl

/-! ### Runs of separators -/

/-- Separators side by side, one or more. -/
structure SeparatorRun where
  text : String
  ne_empty : text.toList ≠ []
  isSeparator : ∀ c ∈ text.toList, Naming.isSeparator c = true

theorem pascalFrom_run_append {run : List Char} (hne : run ≠ []) (hrun : ∀ c ∈ run, isSeparator c = true)
    (capitalise : Bool) (back : List Char) : pascalFrom capitalise (run ++ back) = pascalFrom true back := by
  induction run generalizing capitalise with
  | nil => exact absurd rfl hne
  | cons c run ih =>
      obtain ⟨hc, hrun⟩ := List.forall_mem_cons.mp hrun
      rw [List.cons_append, pascalFrom, if_pos hc]
      cases run with
      | nil => rfl
      | cons d run => exact ih (List.cons_ne_nil _ _) hrun true

theorem pascalFrom_append_run {run : List Char} (hne : run ≠ []) (hrun : ∀ c ∈ run, isSeparator c = true)
    (capitalise : Bool) (front back : List Char) :
    pascalFrom capitalise (front ++ (run ++ back)) = pascalFrom capitalise front ++ pascalFrom true back := by
  induction front generalizing capitalise with
  | nil => exact pascalFrom_run_append hne hrun capitalise back
  | cons c front ih =>
      rw [List.cons_append, pascalFrom, pascalFrom]
      split
      · exact ih true
      · rw [ih false, List.append_assoc]

/-- A run of separators divides a name, and its class name with it. -/
theorem pascalCase_append_run (front back : String) (run : SeparatorRun) :
    pascalCase (front ++ run.text ++ back) = pascalCase front ++ pascalCase back := by
  rw [pascalCase, String.toList_append, String.toList_append, List.append_assoc,
    pascalFrom_append_run run.ne_empty run.isSeparator, String.ofList_append]
  rfl

theorem pascalCase_pascalCase (name : String) : pascalCase (pascalCase name) = pascalCase name := by
  have hclear : ∀ c ∈ pascalFrom true name.toList, isSeparator c = false :=
    fun c hc => isSeparator_of_mem_pascalFrom hc
  rw [pascalCase, pascalCase, String.toList_ofList, (pascalFrom_of_no_separator hclear).2, capitalized_pascalFrom]

/-- **Class names.** A class name consists of the words of the name, each with its first character in capital form;
to capitalize what follows separators and then the first character makes no difference. There is no separator in
it, it is its own class name, and neither separators around the name nor the choice of separators inside it change
it. -/
theorem pascalCase_of_words (name : String) :
    (pascalCase name).toList = (words name.toList).flatMap capitalized ∧
    (pascalCase name).toList = capitalized (pascalFrom false name.toList) ∧
    (∀ c ∈ (pascalCase name).toList, isSeparator c = false) ∧
    pascalCase (pascalCase name) = pascalCase name ∧
    (∀ run : SeparatorRun,
      pascalCase (run.text ++ name) = pascalCase name ∧ pascalCase (name ++ run.text) = pascalCase name) ∧
    ∀ (front back : String) (run run' : SeparatorRun),
      pascalCase (front ++ run.text ++ back) = pascalCase (front ++ run'.text ++ back) := by
  refine ⟨toList_pascalCase name, ?_, ?_, pascalCase_pascalCase name, ?_, ?_⟩
  · rw [capitalized_pascalFrom_false, pascalCase, String.toList_ofList]
  · intro c hc
    rw [pascalCase, String.toList_ofList] at hc
    exact isSeparator_of_mem_pascalFrom hc
  · intro run
    have hempty : pascalCase "" = "" := by decide
    have hfront := pascalCase_append_run "" name run
    have hback := pascalCase_append_run name "" run
    rw [hempty, String.empty_append, String.empty_append] at hfront
    rw [hempty, String.append_empty, String.append_empty] at hback
    exact ⟨hfront, hback⟩
  · intro front back run run'
    rw [pascalCase_append_run, pascalCase_append_run]

namespace Bookshelf

def underscores : SeparatorRun :=
  ⟨"__", by decide, List.all_eq_true.mp (by decide)⟩

def narrowSpace : SeparatorRun :=
  ⟨"\u202f", by decide, List.all_eq_true.mp (by decide)⟩

/-- The capital form of the first letter of "ŉaam" has two characters and begins with an apostrophe. -/
theorem names_of_books :
    pascalCase ("ŉaam" ++ underscores.text ++ "boek") = pascalCase ("ŉaam" ++ narrowSpace.text ++ "boek") ∧
    pascalCase (narrowSpace.text ++ "ŉaam__boek") = pascalCase "ŉaam__boek" ∧
    pascalCase (pascalCase "ŉaam__boek") = pascalCase "ŉaam__boek" ∧
    (pascalCase "ŉaam__boek").toList = "ʼNaam".toList ++ "Boek".toList ∧ isSeparator 'ʼ' = false := by
  obtain ⟨hwords, _, hclear, hagain, haround, hinside⟩ := pascalCase_of_words "ŉaam__boek"
  have hname : (pascalCase "ŉaam__boek").toList = "ʼNaam".toList ++ "Boek".toList := by
    rw [hwords]
    decide +kernel
  refine ⟨hinside "ŉaam" "boek" underscores narrowSpace, (haround narrowSpace).1, hagain, hname, ?_⟩
  apply hclear
  rw [hname]
  decide

end Bookshelf

end SchemaScribe.Naming
