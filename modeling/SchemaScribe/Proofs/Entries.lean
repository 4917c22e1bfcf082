import Mathlib.Data.List.Induction
import Mathlib.Tactic.Common
import SchemaScribe.Entries
import SchemaScribe.Proofs.Lists

/-!
# Looking up keyed entries

Setting a key is seen by look-ups of that key only. In entries that were set one after another, a look-up
therefore finds what was set last. The keys stay in the order in which they were set first.
-/

namespace SchemaScribe.Entries

variable {κ α : Type} [DecidableEq κ] [BEq κ] [LawfulBEq κ]

theorem lookup_cons_eq_ite (key : κ) (value : α) (entries : List (κ × α)) (k : κ) :
    ((key, value) :: entries).lookup k = if k = key then some value else entries.lookup k := by
  rw [List.lookup_cons]
  by_cases hk : k = key
  · rw [if_pos hk, beq_iff_eq.mpr hk]
  · rw [if_neg hk, beq_eq_false_iff_ne.mpr hk]

theorem lookup_filter {p : κ → Bool} {k : κ} (hk : p k) (entries : List (κ × α)) :
    (entries.filter fun entry => p entry.1).lookup k = entries.lookup k := by
  induction entries with
  | nil => rfl
  | cons entry entries ih =>
      obtain ⟨key, value⟩ := entry
      rw [List.filter_cons, lookup_cons_eq_ite]
      by_cases hkey : k = key
      · rw [if_pos hkey, if_pos (hkey ▸ hk), lookup_cons_eq_ite, if_pos hkey]
      · rw [if_neg hkey, ← ih]
        split
        · rw [lookup_cons_eq_ite, if_neg hkey]
        · rfl

/-- Keys that are listed each with its value, if it has one, are found with just that value. -/
theorem lookup_filterMap (value? : κ → Option α) {keys : List κ} {k : κ} (hk : k ∈ keys) :
    (keys.filterMap fun key => (value? key).map (key, ·)).lookup k = value? k := by
  have hall : ∀ keys : List κ, (keys.filterMap fun key => (value? key).map (key, ·)).lookup k =
      if k ∈ keys then value? k else none := by
    intro keys
    induction keys with
    | nil => rfl
    | cons key keys ih =>
        rw [List.filterMap_cons]
        by_cases hkey : k = key
        · subst hkey
          rw [if_pos List.mem_cons_self]
          cases hvalue : value? k with
          | none =>
              rw [Option.map_none, ih, hvalue]
              exact ite_self none
          | some v => rw [Option.map_some, lookup_cons_eq_ite, if_pos rfl]
        · simp only [List.mem_cons, hkey, false_or]
          rw [← ih]
          cases value? key with
          | none => rfl
          | some v => rw [Option.map_some, lookup_cons_eq_ite, if_neg hkey]
  rw [hall, if_pos hk]

theorem lookup_set (key : κ) (value : α) (entries : List (κ × α)) (k : κ) :
    (set key value entries).lookup k = if k = key then some value else entries.lookup k := by
  induction entries with
  | nil => rw [set, lookup_cons_eq_ite]
  | cons entry entries ih =>
      obtain ⟨k', v⟩ := entry
      rw [set]
      by_cases hentry : k' = key
      · rw [if_pos hentry, lookup_cons_eq_ite, lookup_cons_eq_ite, hentry]
        by_cases hk : k = key
        · rw [if_pos hk, if_pos hk]
        · rw [if_neg hk, if_neg hk, if_neg hk]
      · rw [if_neg hentry, lookup_cons_eq_ite, lookup_cons_eq_ite, ih]
        by_cases hk : k = k'
        · have hne : k ≠ key := fun h => hentry (hk.symm.trans h)
          rw [if_pos hk, if_pos hk, if_neg hne]
        · rw [if_neg hk, if_neg hk]

/-- Entries set later hide those set before, which hide what was there at first. -/
theorem lookup_foldl_set (entries acc : List (κ × α)) (k : κ) :
    (entries.foldl (fun acc entry => set entry.1 entry.2 acc) acc).lookup k =
      (entries.reverse.lookup k).or (acc.lookup k) := by
  induction entries generalizing acc with
  | nil => rfl
  | cons entry entries ih =>
      obtain ⟨key, value⟩ := entry
      rw [List.foldl_cons, ih, lookup_set, List.reverse_cons, List.lookup_append, Option.or_assoc,
        lookup_cons_eq_ite, List.lookup_nil]
      by_cases hk : k = key
      · rw [if_pos hk, if_pos hk, Option.some_or]
      · rw [if_neg hk, if_neg hk, Option.none_or]

theorem lookup_ofList (entries : List (κ × α)) (k : κ) :
    (ofList entries).lookup k = entries.reverse.lookup k := by
  rw [ofList, lookup_foldl_set, List.lookup_nil, Option.or_none]

/-- What a look-up finds was set at some place, and its key was not set again behind it. -/
theorem lookup_ofList_eq_some_iff {entries : List (κ × α)} {k : κ} {value : α} :
    (ofList entries).lookup k = some value ↔
      ∃ earlier later, entries = earlier ++ (k, value) :: later ∧ ∀ entry ∈ later, entry.1 ≠ k := by
  rw [lookup_ofList, List.lookup_eq_some_iff]
  constructor
  · rintro ⟨later, earlier, hentries, hlater⟩
    refine ⟨earlier.reverse, later.reverse, ?_, ?_⟩
    · rw [← List.reverse_reverse entries, hentries]
      simp
    · intro entry hentry
      exact (bne_iff_ne.mp (hlater entry (List.mem_reverse.mp hentry))).symm
  · rintro ⟨earlier, later, rfl, hlater⟩
    refine ⟨later.reverse, earlier.reverse, by simp, ?_⟩
    intro entry hentry
    exact bne_iff_ne.mpr (hlater entry (List.mem_reverse.mp hentry)).symm

theorem lookup_ofList_eq_none_iff {entries : List (κ × α)} {k : κ} :
    (ofList entries).lookup k = none ↔ ∀ entry ∈ entries, entry.1 ≠ k := by
  rw [lookup_ofList, List.lookup_eq_none_iff]
  simp only [List.mem_reverse, bne_iff_ne, ne_comm]

/-! ### The order of the keys -/

theorem map_fst_set (key : κ) (value : α) (entries : List (κ × α)) :
    (set key value entries).map Prod.fst =
      if key ∈ entries.map Prod.fst then entries.map Prod.fst else entries.map Prod.fst ++ [key] := by
  induction entries with
  | nil => rfl
  | cons entry entries ih =>
      obtain ⟨k, v⟩ := entry
      rw [set]
      by_cases hk : k = key
      · have hmem : key ∈ ((k, v) :: entries).map Prod.fst := by
          rw [← hk]
          exact List.mem_cons_self
        rw [if_pos hk, if_pos hmem]
        rfl
      · rw [if_neg hk, List.map_cons, ih, List.map_cons]
        by_cases hmem : key ∈ entries.map Prod.fst
        · rw [if_pos hmem, if_pos (List.mem_cons_of_mem k hmem)]
        · have hcons : key ∉ k :: entries.map Prod.fst := by
            rw [List.mem_cons, not_or]
            exact ⟨Ne.symm hk, hmem⟩
          rw [if_neg hmem, if_neg hcons, List.cons_append]

omit [BEq κ] [LawfulBEq κ] in
theorem ofList_append_singleton (entries : List (κ × α)) (entry : κ × α) :
    ofList (entries ++ [entry]) = set entry.1 entry.2 (ofList entries) := by
  rw [ofList, List.foldl_append]
  rfl

theorem map_fst_ofList (entries : List (κ × α)) :
    (ofList entries).map Prod.fst = (entries.map Prod.fst).eraseDups := by
  -- The last entry either finds its key among those before or adds it at the end.
  induction entries using List.reverseRecOn with
  | nil => rfl
  | append_singleton entries entry ih =>
      rw [ofList_append_singleton, map_fst_set, ih, List.map_append, List.map_singleton]
      by_cases hmem : entry.1 ∈ entries.map Prod.fst
      · rw [if_pos (List.mem_eraseDups.mpr hmem), eraseDups_append_singleton_of_mem hmem]
      · rw [if_neg (hmem ∘ List.mem_eraseDups.mp), eraseDups_append_singleton_of_not_mem hmem]

end SchemaScribe.Entries
