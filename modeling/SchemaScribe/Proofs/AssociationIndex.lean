import SchemaScribe.Proofs.Classification
import SchemaScribe.Proofs.Names

/-!
# Which association table a relationship finds

A relationship looks for its association table by the ids of the two tables, in an index that keeps the
first association table of each pair. Leaving out the later ones changes no look-up, so what is found
belongs to the earliest many-to-many relationship between the same tables in the same order. In
particular every many-to-many relationship finds one.
-/

namespace SchemaScribe

/-- Among `rs`, `earliest` is the first many-to-many relationship between the tables of `r`, in the order
in which `r` has them. -/
structure ClassifiedRelationship.EarliestBetween (rs : List ClassifiedRelationship)
    (r earliest : ClassifiedRelationship) : Prop where
  mem : earliest ∈ rs
  manyToMany : earliest.kind = .manyToMany
  samePair : earliest.tablePair = r.tablePair
  ordinal_le : ∀ s ∈ rs, s.kind = .manyToMany → s.tablePair = r.tablePair →
    earliest.ordinal ≤ s.ordinal

namespace ClassifiedRelationship.EarliestBetween

variable {r head earliest : ClassifiedRelationship} {rest : List ClassifiedRelationship}

theorem of_head (hkind : head.kind = .manyToMany) (hpair : head.tablePair = r.tablePair)
    (hrest : ∀ s ∈ rest, head.ordinal < s.ordinal) : EarliestBetween (head :: rest) r head := by
  refine ⟨List.mem_cons_self, hkind, hpair, ?_⟩
  intro s hs _ _
  rcases List.mem_cons.mp hs with rfl | hs
  · exact Nat.le_refl _
  · exact Nat.le_of_lt (hrest s hs)

theorem cons (h : EarliestBetween rest r earliest)
    (hhead : ¬ (head.kind = .manyToMany ∧ head.tablePair = r.tablePair)) :
    EarliestBetween (head :: rest) r earliest := by
  refine ⟨List.mem_cons_of_mem _ h.mem, h.manyToMany, h.samePair, ?_⟩
  intro s hs hkind hpair
  rcases List.mem_cons.mp hs with rfl | hs
  · exact absurd ⟨hkind, hpair⟩ hhead
  · exact h.ordinal_le s hs hkind hpair

end ClassifiedRelationship.EarliestBetween

namespace AssociationTable

variable {db : DatabaseType} {r : ClassifiedRelationship} {a : AssociationTable}

theorem exists_ofRelationship? (db : DatabaseType) (hkind : r.kind = .manyToMany) :
    ∃ a, ofRelationship? db r = some a := by
  rw [ofRelationship?, if_pos hkind]
  exact ⟨_, rfl⟩

theorem ofRelationship?_eq_none (hkind : r.kind ≠ .manyToMany) : ofRelationship? db r = none := by
  rw [ofRelationship?, if_neg hkind]

theorem kind_of_ofRelationship? (h : ofRelationship? db r = some a) : r.kind = .manyToMany := by
  by_contra hkind
  rw [ofRelationship?_eq_none hkind] at h
  exact Option.some_ne_none _ h.symm

theorem columns_of_ofRelationship? (h : ofRelationship? db r = some a) :
    a.left = .ofEndpoint r.first ∧ a.right = .ofEndpoint r.second ∧ a.ordinal = r.ordinal := by
  rw [ofRelationship?, if_pos (kind_of_ofRelationship? h)] at h
  obtain rfl := Option.some.inj h
  exact ⟨rfl, rfl, rfl⟩

theorem name_of_ofRelationship? (h : ofRelationship? db r = some a) :
    a.name = Naming.associationName Naming.associationMark r.first.table.name r.second.table.name
      r.ordinal := by
  rw [ofRelationship?, if_pos (kind_of_ofRelationship? h)] at h
  obtain rfl := Option.some.inj h
  rfl

theorem tablePair_of_ofRelationship? (h : ofRelationship? db r = some a) :
    a.tablePair = r.tablePair := by
  obtain ⟨hleft, hright, _⟩ := columns_of_ofRelationship? h
  unfold tablePair ClassifiedRelationship.tablePair
  rw [hleft, hright]
  rfl

theorem forPair?_cons (a : AssociationTable) (as : List AssociationTable) (pair : LooseText × LooseText) :
    forPair? (a :: as) pair = if a.tablePair = pair then some a else forPair? as pair := by
  unfold forPair?
  rw [List.find?_cons]
  by_cases hpair : a.tablePair = pair
  · rw [decide_eq_true hpair, if_pos hpair]
  · rw [decide_eq_false hpair, if_neg hpair]

theorem forPair?_firstPerPair {seen : List (LooseText × LooseText)} {pair : LooseText × LooseText}
    (hseen : pair ∉ seen) (as : List AssociationTable) :
    forPair? (firstPerPair seen as) pair = forPair? as pair := by
  -- Passed pairs are kept apart from the one that is looked up.
  induction as generalizing seen with
  | nil => rfl
  | cons a as ih =>
      rw [firstPerPair, forPair?_cons]
      by_cases hpassed : seen.contains a.tablePair = true
      · have hne : a.tablePair ≠ pair := by
          rintro rfl
          exact hseen (List.contains_iff_mem.mp hpassed)
        rw [if_pos hpassed, if_neg hne]
        exact ih hseen
      · rw [if_neg hpassed, forPair?_cons]
        by_cases hpair : a.tablePair = pair
        · rw [if_pos hpair, if_pos hpair]
        · have hseen' : pair ∉ a.tablePair :: seen := by
            rw [List.mem_cons, not_or]
            exact ⟨Ne.symm hpair, hseen⟩
          rw [if_neg hpair, if_neg hpair]
          exact ih hseen'

theorem forPair?_ofRelationships_cons_of_not {head : ClassifiedRelationship}
    {rest : List ClassifiedRelationship}
    (hhead : ¬ (head.kind = .manyToMany ∧ head.tablePair = r.tablePair)) :
    forPair? (ofRelationships db (head :: rest)) r.tablePair =
      forPair? (ofRelationships db rest) r.tablePair := by
  unfold ofRelationships
  cases ha : ofRelationship? db head with
  | none => rw [List.filterMap_cons_none ha]
  | some a =>
      have hpair : a.tablePair ≠ r.tablePair := by
        rw [tablePair_of_ofRelationship? ha]
        exact fun h => hhead ⟨kind_of_ofRelationship? ha, h⟩
      rw [List.filterMap_cons_some ha, forPair?_cons, if_neg hpair]

theorem exists_forPair?_ofRelationships (db : DatabaseType) {rs : List ClassifiedRelationship}
    (hsorted : rs.Pairwise fun s t => s.ordinal < t.ordinal) (hr : r ∈ rs)
    (hkind : r.kind = .manyToMany) :
    ∃ earliest a, ClassifiedRelationship.EarliestBetween rs r earliest ∧
      ofRelationship? db earliest = some a ∧
      forPair? (ofRelationships db rs) r.tablePair = some a := by
  -- Ordinals grow along the list, so the first match has the least one.
  induction rs with
  | nil => exact absurd hr List.not_mem_nil
  | cons head rest ih =>
      obtain ⟨hhead, hrest⟩ := List.pairwise_cons.mp hsorted
      by_cases hmatch : head.kind = .manyToMany ∧ head.tablePair = r.tablePair
      · obtain ⟨a, ha⟩ := exists_ofRelationship? db hmatch.1
        have hpair : a.tablePair = r.tablePair := (tablePair_of_ofRelationship? ha).trans hmatch.2
        refine ⟨head, a, .of_head hmatch.1 hmatch.2 hhead, ha, ?_⟩
        rw [ofRelationships, List.filterMap_cons_some ha, forPair?_cons, if_pos hpair]
      · have hr' : r ∈ rest := by
          rcases List.mem_cons.mp hr with rfl | hr'
          · exact absurd ⟨hkind, rfl⟩ hmatch
          · exact hr'
        obtain ⟨earliest, a, hearliest, ha, hfound⟩ := ih hrest hr'
        refine ⟨earliest, a, hearliest.cons hmatch, ha, ?_⟩
        rw [forPair?_ofRelationships_cons_of_not hmatch, hfound]

theorem mem_ofRelationships_iff {rs : List ClassifiedRelationship} :
    a ∈ ofRelationships db rs ↔ ∃ r ∈ rs, ofRelationship? db r = some a :=
  List.mem_filterMap

theorem mem_of_forPair?_eq_some {as : List AssociationTable} {pair : LooseText × LooseText}
    (h : forPair? as pair = some a) : a ∈ as :=
  List.mem_of_find?_eq_some h

end AssociationTable

namespace Blueprint

theorem association_eq_of_name_eq {d : Diagram} {options : Options} {b : Blueprint}
    (hb : d.blueprint options = .ok b) {a a' : AssociationTable} (ha : a ∈ b.associations)
    (ha' : a' ∈ b.associations) (hname : a.name = a'.name) : a = a' := by
  obtain ⟨rs, hrs, rfl⟩ := Diagram.blueprint_eq_ok_iff.mp hb
  obtain ⟨r, hr, hra⟩ := AssociationTable.mem_ofRelationships_iff.mp ha
  obtain ⟨r', hr', hra'⟩ := AssociationTable.mem_ofRelationships_iff.mp ha'
  -- A name ends in the ordinal, which no two relationships share.
  rw [AssociationTable.name_of_ofRelationship? hra, AssociationTable.name_of_ofRelationship? hra'] at hname
  obtain rfl := Diagram.eq_of_ordinal_eq hrs hr hr' (Naming.ordinal_eq_of_associationName_eq hname)
  exact Option.some.inj (hra.symm.trans hra')

/-- A many-to-many relationship finds the association table of the earliest one between its tables. -/
theorem exists_associationFor? {d : Diagram} {options : Options} {b : Blueprint}
    (hb : d.blueprint options = .ok b) {r : ClassifiedRelationship} (hr : r ∈ b.relationships)
    (hkind : r.kind = .manyToMany) :
    ∃ earliest a, ClassifiedRelationship.EarliestBetween b.relationships r earliest ∧
      AssociationTable.ofRelationship? d.databaseType earliest = some a ∧
      b.associationFor? r = some a ∧ a ∈ b.associations := by
  obtain ⟨rs, hrs, rfl⟩ := Diagram.blueprint_eq_ok_iff.mp hb
  obtain ⟨earliest, a, hearliest, ha, hfound⟩ :=
    AssociationTable.exists_forPair?_ofRelationships d.databaseType
      (Diagram.pairwise_ordinal_of_classifyAll hrs) hr hkind
  refine ⟨earliest, a, hearliest, ha, ?_, AssociationTable.mem_of_forPair?_eq_some hfound⟩
  unfold associationFor?
  rw [← hfound]
  exact AssociationTable.forPair?_firstPerPair List.not_mem_nil _

end Blueprint

end SchemaScribe
