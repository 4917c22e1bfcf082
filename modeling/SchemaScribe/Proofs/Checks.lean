import SchemaScribe.Diagram.Document
import SchemaScribe.Proofs.Lists

/-!
# What a check has found where it is passed

A check is passed exactly if its parts are, however they are put together. So what the part for a key makes
sure of holds of every record that was read. In particular every diagram that a document gives is well named.
-/

namespace SchemaScribe

open Document

namespace Document

namespace Checked

variable {α β : Type}

theorem map_eq_valid_iff {f : α → β} {x : Checked α} {b : β} :
    f <$> x = .valid b ↔ ∃ a, x = .valid a ∧ f a = b := by
  have hmap : f <$> x = both (.valid f) x := rfl
  rw [hmap]
  cases x <;> simp [both]

theorem seq_eq_valid_iff {f : Checked (α → β)} {x : Checked α} {b : β} :
    f <*> x = .valid b ↔ ∃ g a, f = .valid g ∧ x = .valid a ∧ g a = b := by
  have hseq : f <*> x = both f x := rfl
  rw [hseq]
  cases f <;> cases x <;> simp [both]

theorem andThen_eq_valid_iff {x : Checked α} {check : α → Checked β} {b : β} :
    x.andThen check = .valid b ↔ ∃ a, x = .valid a ∧ check a = .valid b := by
  cases x <;> simp [andThen]

theorem under_eq_valid_iff {x : Checked α} {step : Step} {a : α} :
    x.under step = .valid a ↔ x = .valid a := by
  cases x <;> simp [under]

end Checked

namespace Check

variable {α : Type} {check : Value → Checked α}

theorem optional_eq_valid_iff {v : Value} {o : Option α} :
    optional check v = .valid o ↔
      v = .null ∧ o = none ∨ v ≠ .null ∧ ∃ a, check v = .valid a ∧ o = some a := by
  have hmap : ∀ x : Checked α, x.map some = .valid o ↔ ∃ a, x = .valid a ∧ o = some a := by
    intro x
    cases x <;> simp [Checked.map, eq_comm]
  cases v with
  | null => simp [optional, eq_comm]
  | _ => simp [optional, hmap]

theorem ne_empty_of_nonEmptyText {v : Value} {s : String} (h : nonEmptyText v = .valid s) : s ≠ "" := by
  have hread : (text v).andThen (fun s => if s = "" then .fail .tooShort else .valid s) = .valid s := by
    cases v with
    | brokenText shown => cases h
    | _ => exact h
  obtain ⟨t, _, ht⟩ := Checked.andThen_eq_valid_iff.mp hread
  intro hs
  by_cases hempty : t = ""
  · rw [if_pos hempty] at ht
    cases ht
  · rw [if_neg hempty] at ht
    obtain rfl := Checked.valid.inj ht
    exact hempty hs

theorem exists_of_mem_itemsFrom {index : Nat} {items : List Value} {as : List α}
    (h : itemsFrom check index items = .valid as) {a : α} (ha : a ∈ as) :
    ∃ v ∈ items, check v = .valid a := by
  induction items generalizing index as with
  | nil =>
      obtain rfl := Checked.valid.inj h
      exact absurd ha List.not_mem_nil
  | cons v items ih =>
      obtain ⟨_, rest, hhead, hrest, rfl⟩ := Checked.seq_eq_valid_iff.mp h
      obtain ⟨first, hfirst, rfl⟩ := Checked.map_eq_valid_iff.mp hhead
      rcases List.mem_cons.mp ha with rfl | ha
      · exact ⟨v, List.mem_cons_self, Checked.under_eq_valid_iff.mp hfirst⟩
      · obtain ⟨w, hw, hcheck⟩ := ih hrest ha
        exact ⟨w, List.mem_cons_of_mem v hw, hcheck⟩

theorem exists_of_mem_listOf {v : Value} {as : List α} (h : listOf check v = .valid as) {a : α}
    (ha : a ∈ as) : ∃ item, check item = .valid a := by
  cases v with
  | list items =>
      obtain ⟨item, _, hitem⟩ := exists_of_mem_itemsFrom h ha
      exact ⟨item, hitem⟩
  | set items =>
      obtain ⟨item, _, hitem⟩ := exists_of_mem_itemsFrom h ha
      exact ⟨item, hitem⟩
  | _ => cases h

theorem exists_of_objectOf {kind : String} {check : List (String × Value) → Checked α} {v : Value} {a : α}
    (h : objectOf kind check v = .valid a) : ∃ entries, check entries = .valid a := by
  cases v with
  | object entries => exact ⟨entries, h⟩
  | _ => cases h

end Check

namespace Key

variable {α : Type} {k : Key} {check : Value → Checked α} {entries : List (String × Value)} {a : α}

theorem exists_of_required (h : k.required check entries = .valid a) : ∃ v, check v = .valid a := by
  unfold required at h
  cases hfind : k.find? entries with
  | none =>
      rw [hfind] at h
      cases h
  | some found =>
      rw [hfind] at h
      exact ⟨found.2, Checked.under_eq_valid_iff.mp h⟩

theorem exists_of_withDefault {default : α} (h : k.withDefault default check entries = .valid a) :
    a = default ∨ ∃ v, check v = .valid a := by
  unfold withDefault at h
  cases hfind : k.find? entries with
  | none =>
      rw [hfind] at h
      exact Or.inl (Checked.valid.inj h).symm
  | some found =>
      rw [hfind] at h
      exact Or.inr ⟨found.2, Checked.under_eq_valid_iff.mp h⟩

theorem exists_of_mem_withDefault_objects {kind : String} {check : List (String × Value) → Checked α}
    {as : List α} (h : k.withDefault [] (Check.listOf (Check.objectOf kind check)) entries = .valid as)
    (ha : a ∈ as) : ∃ entries, check entries = .valid a := by
  rcases exists_of_withDefault h with rfl | ⟨v, hv⟩
  · exact absurd ha List.not_mem_nil
  · obtain ⟨_, hitem⟩ := Check.exists_of_mem_listOf hv ha
    exact Check.exists_of_objectOf hitem

end Key

end Document

/-! ### Well-named diagrams -/

@[mk_iff]
structure Field.WellNamed (f : Field) : Prop where
  name : f.name ≠ ""
  typeName : f.type.name ≠ ""

instance (f : Field) : Decidable f.WellNamed :=
  decidable_of_iff' _ (Field.wellNamed_iff f)

@[mk_iff]
structure Table.WellNamed (t : Table) : Prop where
  name : t.name ≠ ""
  schema : t.schema ≠ some ""
  fields : ∀ f ∈ t.fields, f.WellNamed

instance (t : Table) : Decidable t.WellNamed :=
  decidable_of_iff' _ (Table.wellNamed_iff t)

/-- Tables, fields and the types of fields have names, and no schema or cascade is the empty text. -/
@[mk_iff]
structure Diagram.WellNamed (d : Diagram) : Prop where
  tables : ∀ t ∈ d.tables, t.WellNamed
  cascades : ∀ r ∈ d.relationships, r.cascade ≠ some ""
  schemas : ∀ c ∈ d.customTypes, c.schema ≠ some ""

instance (d : Diagram) : Decidable d.WellNamed :=
  decidable_of_iff' _ (Diagram.wellNamed_iff d)

theorem nonEmpty_ne_some_empty (s : Option String) : nonEmpty s ≠ some "" := by
  intro h
  simpa using (Option.filter_eq_some_iff.mp h).2

variable {entries : List (String × Value)}

theorem FieldType.name_ne_empty_of_check {t : FieldType} (h : FieldType.check entries = .valid t) :
    t.name ≠ "" := by
  simp only [FieldType.check, Checked.seq_eq_valid_iff, Checked.map_eq_valid_iff] at h
  obtain ⟨_, _, ⟨_, hname, rfl⟩, _, rfl⟩ := h
  obtain ⟨_, hname⟩ := Key.exists_of_required hname
  exact Check.ne_empty_of_nonEmptyText hname

theorem Field.wellNamed_of_check {f : Field} (h : Field.check entries = .valid f) : f.WellNamed := by
  simp only [Field.check, Checked.seq_eq_valid_iff, Checked.map_eq_valid_iff] at h
  -- The keys from the last one back to the type and the name.
  obtain ⟨_, _, ⟨_, _, ⟨_, _, ⟨_, _, h, _, rfl⟩, _, rfl⟩, _, rfl⟩, _, rfl⟩ := h
  obtain ⟨_, _, ⟨_, _, ⟨_, _, ⟨_, _, ⟨_, _, h, _, rfl⟩, _, rfl⟩, _, rfl⟩, _, rfl⟩, _, rfl⟩ := h
  obtain ⟨_, _, ⟨_, _, ⟨_, _, rfl⟩, hname, rfl⟩, htype, rfl⟩ := h
  obtain ⟨_, hname⟩ := Key.exists_of_required hname
  obtain ⟨_, htype⟩ := Key.exists_of_required htype
  obtain ⟨_, htype⟩ := Check.exists_of_objectOf htype
  exact ⟨Check.ne_empty_of_nonEmptyText hname, FieldType.name_ne_empty_of_check htype⟩

theorem Table.wellNamed_of_check {t : Table} (h : Table.check entries = .valid t) : t.WellNamed := by
  simp only [Table.check, Checked.seq_eq_valid_iff, Checked.map_eq_valid_iff] at h
  obtain ⟨_, _, ⟨_, _, ⟨_, _, h, hfields, rfl⟩, _, rfl⟩, _, rfl⟩ := h
  obtain ⟨_, _, ⟨_, _, ⟨_, _, ⟨_, _, rfl⟩, hname, rfl⟩, ⟨schema, _, rfl⟩, rfl⟩, _, rfl⟩ := h
  obtain ⟨_, hname⟩ := Key.exists_of_required hname
  refine ⟨Check.ne_empty_of_nonEmptyText hname, nonEmpty_ne_some_empty schema, ?_⟩
  intro f hf
  obtain ⟨_, hfield⟩ := Key.exists_of_mem_withDefault_objects hfields hf
  exact Field.wellNamed_of_check hfield

theorem Relationship.cascade_ne_empty_of_check {r : Relationship}
    (h : Relationship.check entries = .valid r) : r.cascade ≠ some "" := by
  simp only [Relationship.check, Checked.seq_eq_valid_iff, Checked.map_eq_valid_iff] at h
  obtain ⟨_, _, ⟨_, _, ⟨_, _, ⟨_, _, h, _, rfl⟩, _, rfl⟩, _, rfl⟩, ⟨cascade, _, rfl⟩, rfl⟩ := h
  obtain ⟨_, _, ⟨_, _, ⟨_, _, ⟨_, _, ⟨_, _, rfl⟩, _, rfl⟩, _, rfl⟩, _, rfl⟩, _, rfl⟩ := h
  exact nonEmpty_ne_some_empty cascade

theorem CustomType.schema_ne_empty_of_check {c : CustomType} (h : CustomType.check entries = .valid c) :
    c.schema ≠ some "" := by
  simp only [CustomType.check, Checked.seq_eq_valid_iff, Checked.map_eq_valid_iff] at h
  obtain ⟨_, _, ⟨_, _, ⟨_, _, ⟨_, _, ⟨_, _, rfl⟩, _, rfl⟩, _, rfl⟩, ⟨schema, _, rfl⟩, rfl⟩, _, rfl⟩ := h
  exact nonEmpty_ne_some_empty schema

namespace Diagram

theorem wellNamed_of_check {d : Diagram} (h : Diagram.check entries = .valid d) : d.WellNamed := by
  simp only [Diagram.check, Checked.seq_eq_valid_iff, Checked.map_eq_valid_iff] at h
  obtain ⟨_, _, ⟨_, _, ⟨_, _, h, htypes, rfl⟩, _, rfl⟩, _, rfl⟩ := h
  obtain ⟨_, _, ⟨_, _, ⟨_, _, rfl⟩, htables, rfl⟩, hrelationships, rfl⟩ := h
  refine ⟨?_, ?_, ?_⟩
  · intro t ht
    obtain ⟨_, htable⟩ := Key.exists_of_mem_withDefault_objects htables ht
    exact Table.wellNamed_of_check htable
  · intro r hr
    obtain ⟨_, hrelationship⟩ := Key.exists_of_mem_withDefault_objects hrelationships hr
    exact Relationship.cascade_ne_empty_of_check hrelationship
  · intro c hc
    obtain ⟨_, htype⟩ := Key.exists_of_mem_withDefault_objects htypes hc
    exact CustomType.schema_ne_empty_of_check htype

theorem ofValue_eq_ok_iff {v : Value} {d : Diagram} :
    ofValue v = .ok d ↔ ∃ entries, v = .object entries ∧ check entries = .valid d := by
  constructor
  · intro h
    cases v with
    | object entries =>
        refine ⟨entries, rfl, ?_⟩
        unfold ofValue at h
        cases hcheck : check entries with
        | invalid problems => simp [hcheck] at h
        | valid read =>
            simp only [hcheck, Except.ok.injEq] at h
            rw [h]
    | _ => cases h
  · rintro ⟨entries, rfl, hcheck⟩
    simp only [ofValue, hcheck]

theorem wellNamed_of_ofValue {v : Value} {d : Diagram} (h : ofValue v = .ok d) : d.WellNamed := by
  obtain ⟨_, _, hcheck⟩ := ofValue_eq_ok_iff.mp h
  exact wellNamed_of_check hcheck

end Diagram

end SchemaScribe
