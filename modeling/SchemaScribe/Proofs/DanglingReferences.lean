import SchemaScribe.Proofs.GenerationOutcome
import SchemaScribe.Report

/-!
# Which dangling reference is reported

Relationships are classified in their order, and the first one that names something missing ends the run. At each
end the table is looked up before the field, and the source comes before the target. Where nothing is missing,
every relationship is classified at its own place, by its cardinalities and by what its ids find first.
-/

namespace SchemaScribe

/-- The first member of a list with a property. -/
def IsFirst {α : Type} (p : α → Prop) (xs : List α) (x : α) : Prop :=
  ∃ earlier later, xs = earlier ++ x :: later ∧ p x ∧ ∀ y ∈ earlier, ¬ p y

theorem find?_eq_some_iff_isFirst {α : Type} {p : α → Prop} [DecidablePred p] {xs : List α} {x : α} :
    xs.find? (fun y => decide (p y)) = some x ↔ IsFirst p xs x := by
  rw [List.find?_eq_some_iff_append, decide_eq_true_iff]
  simp only [Bool.not_eq_true', decide_eq_false_iff_not]
  constructor
  · rintro ⟨hx, earlier, later, hsplit, hearlier⟩
    exact ⟨earlier, later, hsplit, hx, hearlier⟩
  · rintro ⟨earlier, later, hsplit, hx, hearlier⟩
    exact ⟨hx, earlier, later, hsplit, hearlier⟩

theorem exists_split_cons_iff {α : Type} {p q : α → Prop} {x : α} {xs : List α} :
    (∃ earlier y later, x :: xs = earlier ++ y :: later ∧ (∀ z ∈ earlier, q z) ∧ p y) ↔
      p x ∨ q x ∧ ∃ earlier y later, xs = earlier ++ y :: later ∧ (∀ z ∈ earlier, q z) ∧ p y := by
  constructor
  · rintro ⟨earlier, y, later, hsplit, hearlier, hy⟩
    cases earlier with
    | nil =>
        obtain ⟨rfl, _⟩ := List.cons.inj hsplit
        exact Or.inl hy
    | cons z earlier =>
        obtain ⟨rfl, rfl⟩ := List.cons.inj hsplit
        obtain ⟨hx, hearlier⟩ := List.forall_mem_cons.mp hearlier
        exact Or.inr ⟨hx, earlier, y, later, rfl, hearlier, hy⟩
  · rintro (hx | ⟨hx, earlier, y, later, rfl, hearlier, hy⟩)
    · exact ⟨[], x, xs, rfl, List.forall_mem_nil _, hx⟩
    · exact ⟨x :: earlier, y, later, rfl, List.forall_mem_cons.mpr ⟨hx, hearlier⟩, hy⟩

theorem Diagram.table?_eq_some_iff_isFirst {d : Diagram} {id : LooseText} {t : Table} :
    d.table? id = some t ↔ IsFirst (·.id = id) d.tables t :=
  find?_eq_some_iff_isFirst

theorem Diagram.table?_eq_none_iff {d : Diagram} {id : LooseText} :
    d.table? id = none ↔ ∀ t ∈ d.tables, t.id ≠ id := by
  simp [table?]

theorem Table.field?_eq_some_iff_isFirst {t : Table} {id : LooseText} {f : Field} :
    t.field? id = some f ↔ IsFirst (·.id = id) t.fields f :=
  find?_eq_some_iff_isFirst

theorem Table.field?_eq_none_iff {t : Table} {id : LooseText} :
    t.field? id = none ↔ ∀ f ∈ t.fields, f.id ≠ id := by
  simp [field?]

/-! ### Ends -/

/-- The end is the first field with the one id, in the first table with the other. -/
structure Endpoint.IsAt (e : Endpoint) (d : Diagram) (tableId fieldId : LooseText) : Prop where
  table : IsFirst (·.id = tableId) d.tables e.table
  field : IsFirst (·.id = fieldId) e.table.fields e.field

namespace Diagram

/-- What is missing for an end. -/
inductive Misses (d : Diagram) (relationshipId : Option String) (tableId fieldId : LooseText) :
    DanglingReference → Prop where
  | table (h : ∀ t ∈ d.tables, t.id ≠ tableId) :
      Misses d relationshipId tableId fieldId (.unknownTable relationshipId tableId)
  | field {t : Table} (ht : IsFirst (·.id = tableId) d.tables t) (h : ∀ f ∈ t.fields, f.id ≠ fieldId) :
      Misses d relationshipId tableId fieldId (.unknownField relationshipId tableId t.name fieldId)

/-- What is missing for a relationship. The target counts only if the source is there. -/
inductive Dangles (d : Diagram) (r : Relationship) (e : DanglingReference) : Prop where
  | source (h : d.Misses r.id r.sourceTableId r.sourceFieldId e)
  | target (hsource : d.HasField r.sourceTableId r.sourceFieldId)
      (h : d.Misses r.id r.targetTableId r.targetFieldId e)

variable {d : Diagram}

section Ends

variable {relationshipId : Option String} {tableId fieldId : LooseText}

theorem misses_iff {e : DanglingReference} :
    d.Misses relationshipId tableId fieldId e ↔
      (d.table? tableId = none ∧ e = .unknownTable relationshipId tableId) ∨
        ∃ t, d.table? tableId = some t ∧ t.field? fieldId = none ∧
          e = .unknownField relationshipId tableId t.name fieldId := by
  simp only [table?_eq_none_iff, table?_eq_some_iff_isFirst, Table.field?_eq_none_iff]
  constructor
  · intro h
    cases h with
    | table h => exact Or.inl ⟨h, rfl⟩
    | field ht h => exact Or.inr ⟨_, ht, h, rfl⟩
  · rintro (⟨h, rfl⟩ | ⟨t, ht, h, rfl⟩)
    · exact .table h
    · exact .field ht h

theorem endpoint_eq_error_iff {e : DanglingReference} :
    d.endpoint relationshipId tableId fieldId = .error e ↔ d.Misses relationshipId tableId fieldId e := by
  rw [misses_iff, endpoint]
  cases htable : d.table? tableId with
  | none => simp [eq_comm]
  | some t => cases hfield : t.field? fieldId <;> simp [hfield, eq_comm]

theorem endpoint_eq_ok_iff_isAt {e : Endpoint} :
    d.endpoint relationshipId tableId fieldId = .ok e ↔ e.IsAt d tableId fieldId := by
  rw [endpoint_eq_ok_iff, table?_eq_some_iff_isFirst, Table.field?_eq_some_iff_isFirst]
  exact ⟨fun ⟨htable, hfield⟩ => ⟨htable, hfield⟩, fun h => ⟨h.table, h.field⟩⟩

end Ends

/-! ### One relationship -/

section Classify

variable {r : Relationship} {ordinal : Nat}

theorem classify_eq_error_iff {e : DanglingReference} : d.classify r ordinal = .error e ↔ d.Dangles r e := by
  have hdangles : d.Dangles r e ↔ d.endpoint r.id r.sourceTableId r.sourceFieldId = .error e ∨
      (∃ source, d.endpoint r.id r.sourceTableId r.sourceFieldId = .ok source) ∧
        d.endpoint r.id r.targetTableId r.targetFieldId = .error e := by
    rw [exists_endpoint_iff, endpoint_eq_error_iff, endpoint_eq_error_iff]
    constructor
    · rintro (h | ⟨hsource, h⟩)
      · exact Or.inl h
      · exact Or.inr ⟨hsource, h⟩
    · rintro (h | ⟨hsource, h⟩)
      · exact .source h
      · exact .target hsource h
  rw [hdangles, classify, endpoints]
  cases d.endpoint r.id r.sourceTableId r.sourceFieldId with
  | error e' => simp
  | ok source => cases d.endpoint r.id r.targetTableId r.targetFieldId <;> simp

end Classify

end Diagram

namespace Relationship

/-- The kind of a relationship, which its two cardinalities decide. -/
def declaredKind (r : Relationship) : RelationshipKind :=
  if r.sourceCardinality ≠ r.targetCardinality then .oneToMany
  else if r.sourceCardinality = .one then .oneToOne
  else .manyToMany

/-- The relationship is drawn from its "many" side to its "one" side. -/
def IsManyToOne (r : Relationship) : Prop :=
  r.sourceCardinality = .many ∧ r.targetCardinality = .one

instance (r : Relationship) : Decidable r.IsManyToOne :=
  inferInstanceAs (Decidable (_ ∧ _))

/-- The ids of the end that comes first: the "one" side if there is just one, else the source. -/
def firstIds (r : Relationship) : LooseText × LooseText :=
  if r.IsManyToOne then (r.targetTableId, r.targetFieldId) else (r.sourceTableId, r.sourceFieldId)

def secondIds (r : Relationship) : LooseText × LooseText :=
  if r.IsManyToOne then (r.sourceTableId, r.sourceFieldId) else (r.targetTableId, r.targetFieldId)

end Relationship

theorem ClassifiedRelationship.ofEndpoints_eq (r : Relationship) (ordinal : Nat) (source target : Endpoint) :
    ofEndpoints r ordinal source target r.sourceCardinality r.targetCardinality =
      ⟨r.declaredKind, if r.IsManyToOne then target else source, if r.IsManyToOne then source else target, r,
        ordinal⟩ := by
  cases hs : r.sourceCardinality <;> cases ht : r.targetCardinality <;>
    simp [ofEndpoints, Relationship.declaredKind, Relationship.IsManyToOne, hs, ht]

/-- What a relationship of a diagram is classified as at a place. -/
structure ClassifiedRelationship.Represents (c : ClassifiedRelationship) (d : Diagram) (r : Relationship)
    (ordinal : Nat) : Prop where
  kind : c.kind = r.declaredKind
  first : c.first.IsAt d r.firstIds.1 r.firstIds.2
  second : c.second.IsAt d r.secondIds.1 r.secondIds.2
  relationship : c.relationship = r
  ordinal : c.ordinal = ordinal

namespace Diagram

variable {d : Diagram} {r : Relationship} {ordinal : Nat}

theorem classify_eq_ok_iff_represents {c : ClassifiedRelationship} :
    d.classify r ordinal = .ok c ↔ c.Represents d r ordinal := by
  simp only [classify_eq_ok_iff, endpoints_eq_ok_iff, endpoint_eq_ok_iff_isAt,
    ClassifiedRelationship.ofEndpoints_eq]
  constructor
  · rintro ⟨source, target, ⟨hsource, htarget⟩, rfl⟩
    refine ⟨rfl, ?_, ?_, rfl, rfl⟩
    · unfold Relationship.firstIds
      split
      · exact htarget
      · exact hsource
    · unfold Relationship.secondIds
      split
      · exact hsource
      · exact htarget
  · intro h
    -- A relationship that is drawn backwards has its source second.
    obtain ⟨kind, first, second, relationship, ordinal'⟩ := c
    obtain ⟨hkind, hfirst, hsecond, hrelationship, hordinal⟩ := h
    simp only at hkind hfirst hsecond hrelationship hordinal
    subst hkind hrelationship hordinal
    by_cases hback : relationship.IsManyToOne
    · rw [Relationship.firstIds, if_pos hback] at hfirst
      rw [Relationship.secondIds, if_pos hback] at hsecond
      exact ⟨second, first, ⟨hsecond, hfirst⟩, by rw [if_pos hback, if_pos hback]⟩
    · rw [Relationship.firstIds, if_neg hback] at hfirst
      rw [Relationship.secondIds, if_neg hback] at hsecond
      exact ⟨first, second, ⟨hfirst, hsecond⟩, by rw [if_neg hback, if_neg hback]⟩

/-! ### All relationships -/

variable {rs : List Relationship}

theorem classifyFrom_cons_eq_error_iff {e : DanglingReference} :
    d.classifyFrom ordinal (r :: rs) = .error e ↔
      d.Dangles r e ∨ d.Resolves r ∧ d.classifyFrom (ordinal + 1) rs = .error e := by
  rw [← @classify_eq_error_iff d r ordinal, ← @exists_classify_iff d r ordinal, classifyFrom]
  cases d.classify r ordinal with
  | error e' => simp
  | ok c => cases d.classifyFrom (ordinal + 1) rs <;> simp

theorem classifyFrom_eq_error_iff {e : DanglingReference} :
    d.classifyFrom ordinal rs = .error e ↔
      ∃ earlier r later, rs = earlier ++ r :: later ∧ (∀ s ∈ earlier, d.Resolves s) ∧ d.Dangles r e := by
  induction rs generalizing ordinal with
  | nil => simp [classifyFrom]
  | cons r rs ih => rw [classifyFrom_cons_eq_error_iff, ih, exists_split_cons_iff]

theorem classifyFrom_eq_ok_iff {cs : List ClassifiedRelationship} :
    d.classifyFrom ordinal rs = .ok cs ↔
      cs.length = rs.length ∧
        ∀ i r (c : ClassifiedRelationship), rs[i]? = some r → cs[i]? = some c → c.Represents d r (ordinal + i) := by
  induction rs generalizing ordinal cs with
  | nil => simp [classifyFrom, eq_comm]
  | cons r rs ih =>
      rw [classifyFrom_cons_eq_ok_iff]
      simp only [ih, classify_eq_ok_iff_represents]
      constructor
      · rintro ⟨c, rest, hc, ⟨hlength, hall⟩, rfl⟩
        refine ⟨congrArg Nat.succ hlength, ?_⟩
        intro i r' c' hr' hc'
        -- The rest is numbered from the next ordinal on.
        cases i with
        | zero =>
            obtain rfl := Option.some.inj hr'
            obtain rfl := Option.some.inj hc'
            exact hc
        | succ i =>
            rw [show ordinal + (i + 1) = ordinal + 1 + i by omega]
            exact hall i r' c' hr' hc'
      · rintro ⟨hlength, hall⟩
        cases cs with
        | nil => simp at hlength
        | cons c rest =>
            refine ⟨c, rest, hall 0 r c rfl rfl, ⟨Nat.succ.inj hlength, ?_⟩, rfl⟩
            intro i r' c' hr' hc'
            rw [show ordinal + 1 + i = ordinal + (i + 1) by omega]
            exact hall (i + 1) r' c' hr' hc'

end Diagram

/-! ### The report -/

/-- The report has the ids that are involved for context, the empty ones left out. -/
theorem DanglingReference.context_report (e : DanglingReference) :
    e.report.context = ["relationship_id", "table_id", "field_id"].filterMap fun key =>
      (nonEmpty (e.ids key)).map fun id => (key, .text id) := by
  have hreport : e.report.context = Report.withContext []
      (["relationship_id", "table_id", "field_id"].map fun key => (key, e.ids key)) := rfl
  rw [hreport]
  unfold Report.withContext
  cases hrelationship : nonEmpty (e.ids "relationship_id") <;> cases htable : nonEmpty (e.ids "table_id") <;>
    cases hfield : nonEmpty (e.ids "field_id") <;> simp [hrelationship, htable, hfield, Entries.set]

/-- **Classification.** It fails exactly if some relationship names a table that is not there, or a field that the
first table with its id does not have. Then it reports what is missing for the first such relationship, and the
report has the ids for context. Otherwise there is one classified relationship for each, in its place, between the
first fields with the declared ids in the first tables with theirs, of the kind that the cardinalities say. -/
theorem Diagram.classification_outcome (d : Diagram) :
    ((∃ e, d.classifyAll = .error e) ↔ ∃ r ∈ d.relationships, ¬ d.Resolves r) ∧
    (∀ e, d.classifyAll = .error e ↔ ∃ earlier r later, d.relationships = earlier ++ r :: later ∧
      (∀ s ∈ earlier, d.Resolves s) ∧ d.Dangles r e) ∧
    (∀ e, d.classifyAll = .error e → e.report.kind = .reference ∧
      e.report.context = ["relationship_id", "table_id", "field_id"].filterMap fun key =>
        (nonEmpty (e.ids key)).map fun id => (key, .text id)) ∧
    ∀ rs, d.classifyAll = .ok rs ↔ rs.length = d.relationships.length ∧
      ∀ i r (c : ClassifiedRelationship), d.relationships[i]? = some r → rs[i]? = some c →
        c.Represents d r i := by
  refine ⟨?_, fun _ => classifyFrom_eq_error_iff, fun e _ => ⟨rfl, e.context_report⟩, ?_⟩
  · have hfails : (∃ e, d.classifyAll = .error e) ↔ ¬ ∃ rs, d.classifyAll = .ok rs := by
      cases d.classifyAll <;> simp
    rw [hfails, classifyAll, exists_classifyFrom_iff]
    simp only [not_forall, exists_prop]
  · intro rs
    rw [classifyAll, classifyFrom_eq_ok_iff]
    simp only [Nat.zero_add]

namespace Depot

def number : Field := { id := "n", name := "number", type := ⟨"integer", none⟩ }

def shelves : Table := { id := "s", name := "shelves", fields := [number] }

/-- Another table with the id of the shelves, and with a field that they do not have. -/
def boxes : Table := { id := "s", name := "boxes", fields := [{ number with id := "b" }] }

def storing : Relationship := ⟨"s", "n", "s", "n", .one, .many, some "r0", none, none⟩

def filling : Relationship := ⟨"s", "n", "s", "b", .many, .many, some "r1", none, none⟩

def moving : Relationship := ⟨"t", "n", "s", "x", .one, .one, some "r2", none, none⟩

def diagram : Diagram := { tables := [shelves, boxes], relationships := [storing, filling, moving] }

/-- Of two relationships that name something missing the first is reported. Its field is there, but not in the
first table with the id. -/
theorem filling_reported : diagram.classifyAll = .error (.unknownField (some "r1") "s" "shelves" "b") := by
  have hshelves : IsFirst (·.id = ("s" : LooseText)) diagram.tables shelves := ⟨[], [boxes], rfl, rfl, by simp⟩
  have hnumber : diagram.HasField "s" "n" := ⟨shelves, rfl, number, by decide, rfl⟩
  have hmissing : ∀ f ∈ shelves.fields, f.id ≠ "b" := by decide
  refine ((Diagram.classification_outcome diagram).2.1 _).mpr ⟨[storing], filling, [moving], rfl, ?_, ?_⟩
  · intro r hr
    obtain rfl := List.mem_singleton.mp hr
    exact ⟨hnumber, hnumber⟩
  · exact .target hnumber (.field hshelves hmissing)

end Depot

end SchemaScribe
