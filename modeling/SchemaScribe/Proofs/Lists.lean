import Mathlib.Data.List.Forall2
import Mathlib.Data.List.Nodup
import Mathlib.Data.List.Perm.Basic
import Mathlib.Data.Nat.Init
import Mathlib.Tactic.Common

/-!
# Lists and joined texts

What the standard library leaves out about lists without repetitions, about mapping with a function that
can fail, and about texts that are joined from pieces.
-/

namespace SchemaScribe

section Repetitions

variable {α : Type} [BEq α] [LawfulBEq α]

theorem nodup_eraseDups (xs : List α) : xs.eraseDups.Nodup := by
  -- The tail is filtered before it is treated in the same way, so the induction is on the length.
  induction hlength : xs.length using Nat.strong_induction_on generalizing xs with
  | _ n ih =>
      cases xs with
      | nil => simp
      | cons x rest =>
          rw [List.eraseDups_cons, List.nodup_cons]
          constructor
          · rw [List.mem_eraseDups]
            simp
          · refine ih _ ?_ _ rfl
            rw [← hlength, List.length_cons, Nat.lt_succ_iff]
            exact List.length_filter_le _ _

theorem eraseDups_append_singleton_of_mem {xs : List α} {x : α} (hx : x ∈ xs) :
    (xs ++ [x]).eraseDups = xs.eraseDups := by
  have hnone : [x].removeAll xs = [] := by
    simpa [List.removeAll] using hx
  rw [List.eraseDups_append, hnone, List.eraseDups_nil, List.append_nil]

theorem eraseDups_append_singleton_of_not_mem {xs : List α} {x : α} (hx : x ∉ xs) :
    (xs ++ [x]).eraseDups = xs.eraseDups ++ [x] := by
  have hall : [x].removeAll xs = [x] := by
    simpa [List.removeAll] using hx
  rw [List.eraseDups_append, hall, List.eraseDups_cons, List.filter_nil, List.eraseDups_nil]

theorem count_eraseDups_of_mem {xs : List α} {x : α} (hx : x ∈ xs) : xs.eraseDups.count x = 1 :=
  List.count_eq_one_of_mem (nodup_eraseDups xs) (List.mem_eraseDups.mpr hx)

end Repetitions

theorem filterMap_append_singleton {α β : Type} (f : α → Option β) (xs : List α) (x : α) :
    (xs ++ [x]).filterMap f = xs.filterMap f ++ (f x).toList := by
  rw [List.filterMap_append]
  cases h : f x with
  | none => rw [List.filterMap_cons_none h, List.filterMap_nil, Option.toList_none]
  | some y => rw [List.filterMap_cons_some h, List.filterMap_nil, Option.toList_some]

/-- The last member with a property, and what follows it, are determined by the whole list. -/
theorem eq_of_append_cons_eq_of_forall_not {α : Type} {p : α → Prop} {xs ys us vs : List α} {a b : α}
    (ha : p a) (hb : p b) (hus : ∀ c ∈ us, ¬ p c) (hvs : ∀ c ∈ vs, ¬ p c)
    (h : xs ++ a :: us = ys ++ b :: vs) : a = b ∧ us = vs := by
  rcases List.append_eq_append_iff.mp h with ⟨gap, _, hgap⟩ | ⟨gap, _, hgap⟩
  · cases gap with
    | nil => exact List.cons.inj hgap
    | cons c gap =>
        rw [(List.cons.inj hgap).2] at hus
        exact absurd hb (hus b (List.mem_append_right gap List.mem_cons_self))
  · cases gap with
    | nil =>
        obtain ⟨hhead, htail⟩ := List.cons.inj hgap
        exact ⟨hhead.symm, htail.symm⟩
    | cons c gap =>
        rw [(List.cons.inj hgap).2] at hvs
        exact absurd ha (hvs a (List.mem_append_right gap List.mem_cons_self))

theorem exists_last {α : Type} {p : α → Prop} {xs : List α} (h : ∃ x ∈ xs, p x) :
    ∃ earlier x later, xs = earlier ++ x :: later ∧ p x ∧ ∀ y ∈ later, ¬ p y := by
  induction xs with
  | nil =>
      obtain ⟨x, hx, _⟩ := h
      exact absurd hx List.not_mem_nil
  | cons x xs ih =>
      by_cases hlater : ∃ y ∈ xs, p y
      · obtain ⟨earlier, y, later, rfl, hy, hnone⟩ := ih hlater
        exact ⟨x :: earlier, y, later, rfl, hy, hnone⟩
      · obtain ⟨y, hy, hpy⟩ := h
        rcases List.mem_cons.mp hy with rfl | hy
        · exact ⟨[], y, xs, rfl, hpy, fun z hz hpz => hlater ⟨z, hz, hpz⟩⟩
        · exact absurd ⟨y, hy, hpy⟩ hlater

/-- What follows the last occurrence of a separator is determined by the whole list. -/
theorem eq_of_append_cons_eq {α : Type} {xs ys us vs : List α} {a : α} (hus : a ∉ us) (hvs : a ∉ vs)
    (h : xs ++ a :: us = ys ++ a :: vs) : us = vs := by
  have hnot : ∀ cs : List α, a ∉ cs → ∀ c ∈ cs, c ≠ a := by
    rintro cs hcs c hc rfl
    exact hcs hc
  exact (eq_of_append_cons_eq_of_forall_not (p := (· = a)) rfl rfl (hnot us hus) (hnot vs hvs) h).2

section Failing

variable {α β ε : Type} {f : α → Except ε β}

/-- Mapping succeeds exactly if it succeeds on every member, each result in the place of its member. -/
theorem mapM_eq_ok_iff {xs : List α} {ys : List β} :
    xs.mapM f = .ok ys ↔ List.Forall₂ (fun x y => f x = .ok y) xs ys := by
  induction xs generalizing ys with
  | nil =>
      rw [List.forall₂_nil_left_iff, List.mapM_nil]
      exact ⟨fun h => (Except.ok.inj h).symm, fun h => h ▸ rfl⟩
  | cons x xs ih =>
      rw [List.mapM_cons, List.forall₂_cons_left_iff]
      cases hx : f x with
      | error e => simp [bind, Except.bind]
      | ok y =>
          cases hxs : xs.mapM f with
          | error e =>
              have hnone : ∀ rest, ¬ List.Forall₂ (fun x y => f x = .ok y) xs rest := by
                intro rest hrest
                rw [ih.mpr hrest] at hxs
                cases hxs
              simp [bind, Except.bind, hnone]
          | ok rest =>
              have hrest : ∀ rest', List.Forall₂ (fun x y => f x = .ok y) xs rest' ↔ rest = rest' := by
                intro rest'
                rw [← ih, hxs, Except.ok.injEq]
              simp only [bind, Except.bind, pure, Except.pure, Except.ok.injEq, hrest]
              constructor
              · intro h
                exact ⟨y, rest, rfl, rfl, h.symm⟩
              · rintro ⟨_, _, rfl, rfl, h⟩
                exact h.symm

theorem exists_of_mapM_eq_ok {xs : List α} {ys : List β} (h : xs.mapM f = .ok ys) {x : α}
    (hx : x ∈ xs) : ∃ y ∈ ys, f x = .ok y := by
  have hall := mapM_eq_ok_iff.mp h
  clear h
  induction hall with
  | nil => exact absurd hx List.not_mem_nil
  | cons hhead _ ih =>
      rcases List.mem_cons.mp hx with rfl | hx
      · exact ⟨_, List.mem_cons_self, hhead⟩
      · obtain ⟨y, hy, hxy⟩ := ih hx
        exact ⟨y, List.mem_cons_of_mem _ hy, hxy⟩

theorem exists_mapM_eq_ok_iff {xs : List α} : (∃ ys, xs.mapM f = .ok ys) ↔ ∀ x ∈ xs, ∃ y, f x = .ok y := by
  constructor
  · rintro ⟨ys, h⟩ x hx
    obtain ⟨y, _, hy⟩ := exists_of_mapM_eq_ok h hx
    exact ⟨y, hy⟩
  · intro h
    induction xs with
    | nil => exact ⟨[], rfl⟩
    | cons x xs ih =>
        obtain ⟨hhead, htail⟩ := List.forall_mem_cons.mp h
        obtain ⟨y, hy⟩ := hhead
        obtain ⟨ys, hys⟩ := ih htail
        exact ⟨y :: ys, mapM_eq_ok_iff.mpr (.cons hy (mapM_eq_ok_iff.mp hys))⟩

theorem mapM_append_eq_ok_iff {xs xs' : List α} {ys : List β} :
    (xs ++ xs').mapM f = .ok ys ↔
      ∃ front back, xs.mapM f = .ok front ∧ xs'.mapM f = .ok back ∧ ys = front ++ back := by
  rw [List.mapM_append]
  cases hfront : xs.mapM f with
  | error e => simp [bind, Except.bind]
  | ok front =>
      cases hback : xs'.mapM f with
      | error e => simp [bind, Except.bind]
      | ok back =>
          simp only [bind, Except.bind, pure, Except.pure, Except.ok.injEq]
          constructor
          · intro h
            exact ⟨front, back, rfl, rfl, h.symm⟩
          · rintro ⟨_, _, rfl, rfl, h⟩
            exact h.symm

theorem mapM_append_cons {xs xs' : List α} {front back : List β} (hfront : xs.mapM f = .ok front)
    (hback : xs'.mapM f = .ok back) (x : α) :
    (xs ++ x :: xs').mapM f = (f x).map fun y => front ++ y :: back := by
  rw [List.mapM_append, List.mapM_cons, hfront, hback]
  cases f x <;> rfl

theorem exists_perm_mapM {xs xs' : List α} {ys : List β} (hperm : xs.Perm xs')
    (h : xs.mapM f = .ok ys) : ∃ ys', xs'.mapM f = .ok ys' ∧ ys.Perm ys' := by
  obtain ⟨ys', hall, hys⟩ := List.perm_comp_forall₂ hperm.symm (mapM_eq_ok_iff.mp h)
  exact ⟨ys', mapM_eq_ok_iff.mpr hall, hys.symm⟩

theorem flatMap_eq_of_mapM_eq_ok {γ : Type} {xs : List α} {ys : List β} {g : β → List γ}
    {k : α → List γ} (h : xs.mapM f = .ok ys) (hresult : ∀ x y, f x = .ok y → g y = k x) :
    ys.flatMap g = xs.flatMap k := by
  have hall := mapM_eq_ok_iff.mp h
  clear h
  induction hall with
  | nil => rfl
  | cons hhead _ ih => rw [List.flatMap_cons, List.flatMap_cons, hresult _ _ hhead, ih]

end Failing

section Related

variable {α β : Type} {R : α → β → Prop}

theorem exists_split_of_forall₂ {xs : List α} {front back : List β} {y : β}
    (h : List.Forall₂ R xs (front ++ y :: back)) :
    ∃ earlier x later, xs = earlier ++ x :: later ∧ R x y ∧ List.Forall₂ R later back := by
  induction front generalizing xs with
  | nil =>
      obtain ⟨x, later, hx, hlater, rfl⟩ := List.forall₂_cons_right_iff.mp h
      exact ⟨[], x, later, rfl, hx, hlater⟩
  | cons z front ih =>
      obtain ⟨w, rest, _, hrest, rfl⟩ := List.forall₂_cons_right_iff.mp h
      obtain ⟨earlier, x, later, rfl, hx, hlater⟩ := ih hrest
      exact ⟨w :: earlier, x, later, rfl, hx, hlater⟩

theorem exists_mem_zip_of_forall₂ {xs : List α} {ys : List β} (h : List.Forall₂ R xs ys) {x : α}
    (hx : x ∈ xs) : ∃ y, (x, y) ∈ xs.zip ys ∧ R x y := by
  induction h with
  | nil => exact absurd hx List.not_mem_nil
  | cons hhead _ ih =>
      rcases List.mem_cons.mp hx with rfl | hx
      · exact ⟨_, List.mem_cons_self, hhead⟩
      · obtain ⟨y, hy, hxy⟩ := ih hx
        exact ⟨y, List.mem_cons_of_mem _ hy, hxy⟩

theorem exists_of_forall₂ {xs : List α} {ys : List β} (h : List.Forall₂ R xs ys) {x : α} (hx : x ∈ xs) :
    ∃ y ∈ ys, R x y := by
  obtain ⟨y, hy, hxy⟩ := exists_mem_zip_of_forall₂ h hx
  exact ⟨y, (List.of_mem_zip hy).2, hxy⟩

theorem filterMap_eq_of_forall₂ {γ : Type} {f : α → Option γ} {g : β → Option γ} {xs : List α} {ys : List β}
    (h : List.Forall₂ R xs ys) (hfg : ∀ x y, R x y → f x = g y) : xs.filterMap f = ys.filterMap g := by
  induction h with
  | nil => rfl
  | cons hhead _ ih => rw [List.filterMap_cons, List.filterMap_cons, hfg _ _ hhead, ih]

/-- Members that are related to others one by one can be related to further ones in the same way. -/
theorem exists_forall₂_zip {γ : Type} {S : α → γ → Prop} {T : α → β → γ → Prop} {xs : List α} {ys : List β}
    (h : List.Forall₂ R xs ys) (hnext : ∀ x y, R x y → ∃ z, S x z ∧ T x y z) :
    ∃ zs, List.Forall₂ S xs zs ∧ zs.length = ys.length ∧
      List.Forall₂ (fun x yz => T x yz.1 yz.2) xs (ys.zip zs) := by
  induction h with
  | nil => exact ⟨[], .nil, rfl, .nil⟩
  | cons hhead _ ih =>
      obtain ⟨z, hz, hyz⟩ := hnext _ _ hhead
      obtain ⟨zs, hzs, hlength, hall⟩ := ih
      exact ⟨z :: zs, .cons hz hzs, congrArg Nat.succ hlength, .cons hyz hall⟩

end Related

section Joined

/-- Joined texts as a first one and the others, each behind a separator. -/
theorem intercalate_cons (separator first : String) (rest : List String) :
    separator.intercalate (first :: rest) =
      first ++ String.join (rest.map fun s => separator ++ s) := by
  induction rest generalizing first with
  | nil => simp
  | cons second rest ih =>
      rw [String.intercalate_cons_cons, ih, List.map_cons, String.join_cons]
      simp only [String.append_assoc]

/-- Joined texts around one of them, with each separator beside a text that comes before or after it. -/
theorem intercalate_append_cons (separator : String) (earlier : List String) (s : String)
    (later : List String) :
    separator.intercalate (earlier ++ s :: later) =
      String.join (earlier.map fun s => s ++ separator) ++ s ++
        String.join (later.map fun s => separator ++ s) := by
  induction earlier with
  | nil => simp [intercalate_cons]
  | cons first rest ih =>
      have hne : rest ++ s :: later ≠ [] := by simp
      rw [List.cons_append, String.intercalate_cons_of_ne_nil hne, ih, List.map_cons, String.join_cons]
      simp only [String.append_assoc]

theorem intercalate_append_separator (separator : String) {texts : List String} (h : texts ≠ []) :
    separator.intercalate texts ++ separator = String.join (texts.map fun s => s ++ separator) := by
  induction texts with
  | nil => exact absurd rfl h
  | cons first rest ih =>
      rw [List.map_cons, String.join_cons]
      cases rest with
      | nil => simp
      | cons second rest =>
          rw [String.intercalate_cons_cons, ← ih (List.cons_ne_nil _ _)]
          simp only [String.append_assoc]

end Joined

end SchemaScribe
