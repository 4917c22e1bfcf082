import Mathlib.Data.List.Pairwise
import Mathlib.Logic.Relation
import SchemaScribe.Diagram.Document
import SchemaScribe.Proofs.Entries

/-!
# Entries that are not read

A check looks for its keys and for nothing else, and it looks for the second spelling of a key only where the
first one is missing. So entries under other names may be put into the objects of a document and taken out of
them, at any depth: each key still finds what it found, and the outcome is the same down to the problems and
their order. A step lemma says so for one entry and one key; every check is put together from keys.
-/

namespace SchemaScribe

open Document

namespace Document

/-- Where a check looks inside a value: at the items of a list, or at what stands under certain keys of an
object. In a plain value it looks nowhere. -/
inductive Shape where
  | plain
  | list (item : Shape)
  | object (keys : List (Key × Shape))

namespace Key

/-- The name is one of the spellings of the key. -/
def IsSpelled (k : Key) (name : String) : Prop :=
  name = k.name ∨ name = k.otherName

instance (k : Key) (name : String) : Decidable (k.IsSpelled name) :=
  inferInstanceAs (Decidable (_ ∨ _))

end Key

namespace Shape

/-- The keys of an object in the place of the shape, with what is looked at under each of them. -/
def keys : Shape → List (Key × Shape)
  | object keys => keys
  | _ => []

def item : Shape → Shape
  | list item => item
  | _ => plain

/-- What is looked at under a name. -/
def under (s : Shape) (name : String) : Shape :=
  ((s.keys.find? fun key => key.1.IsSpelled name).map (·.2)).getD plain

/-- No name is a spelling of two keys. -/
def Unambiguous (s : Shape) : Prop :=
  (s.keys.map Prod.fst).Pairwise fun k k' => ¬ k'.IsSpelled k.name ∧ ¬ k'.IsSpelled k.otherName

instance (s : Shape) : Decidable s.Unambiguous :=
  inferInstanceAs (Decidable (List.Pairwise _ _))

/-- An entry with this name is not read where the others are there: no key is spelled so, or it is the second
spelling of a key that is there in its first one. -/
inductive Ignores (s : Shape) (others : List (String × Value)) (name : String) : Prop where
  | undeclared (h : ∀ key ∈ s.keys, ¬ key.1.IsSpelled name)
  | hidden {key : Key × Shape} (hkey : key ∈ s.keys) (hname : name = key.1.otherName)
      (hother : key.1.otherName ≠ key.1.name) (hthere : key.1.name ∈ others.map Prod.fst)

end Shape

/-- The second value is the first one with one entry put in that is not read, in some object inside it. -/
inductive Inserts : Shape → Value → Value → Prop where
  | entry {s : Shape} {front back : List (String × Value)} {name : String} {v : Value}
      (h : s.Ignores (front ++ back) name) :
      Inserts s (.object (front ++ back)) (.object (front ++ (name, v) :: back))
  | under {s : Shape} {front back : List (String × Value)} {name : String} {v v' : Value}
      (h : Inserts (s.under name) v v') :
      Inserts s (.object (front ++ (name, v) :: back)) (.object (front ++ (name, v') :: back))
  | item {s : Shape} {front back : List Value} {v v' : Value} (h : Inserts s.item v v') :
      Inserts s (.list (front ++ v :: back)) (.list (front ++ v' :: back))
  | member {s : Shape} {front back : List Value} {v v' : Value} (h : Inserts s.item v v') :
      Inserts s (.set (front ++ v :: back)) (.set (front ++ v' :: back))

/-! ### What a key finds -/

namespace Key

variable {k : Key} {s : Shape} {front back : List (String × Value)} {name : String} {v v' : Value}

/-- The key finds the same in both objects, up to an entry that is not read inside it. -/
inductive FindsAlike (k : Key) (s : Shape) (entries entries' : List (String × Value)) : Prop where
  | same (h : k.find? entries = k.find? entries')
  | inside {name : String} {v v' : Value} (h : k.find? entries = some (name, v))
      (h' : k.find? entries' = some (name, v')) (hv : Inserts s v v')

theorem find?_insert_of_not_isSpelled (h : ¬ k.IsSpelled name) :
    k.find? (front ++ (name, v) :: back) = k.find? (front ++ back) := by
  have hlookup : ∀ spelling, spelling ≠ name →
      (front ++ (name, v) :: back).lookup spelling = (front ++ back).lookup spelling := by
    intro spelling hne
    rw [List.lookup_append, List.lookup_append, Entries.lookup_cons_eq_ite, if_neg hne]
  unfold find?
  rw [hlookup k.name fun hname => h (Or.inl hname.symm), hlookup k.otherName fun hname => h (Or.inr hname.symm)]

theorem find?_of_mem {entries : List (String × Value)} (h : k.name ∈ entries.map Prod.fst) :
    ∃ v, entries.lookup k.name = some v ∧ k.find? entries = some (k.name, v) := by
  cases hlookup : entries.lookup k.name with
  | none =>
      obtain ⟨entry, hentry, hname⟩ := List.mem_map.mp h
      have hne := List.lookup_eq_none_iff.mp hlookup entry hentry
      rw [hname] at hne
      simp at hne
  | some v =>
      refine ⟨v, rfl, ?_⟩
      rw [find?, hlookup]

theorem find?_insert_otherName (hother : k.otherName ≠ k.name)
    (hthere : k.name ∈ (front ++ back).map Prod.fst) :
    k.find? (front ++ (k.otherName, v) :: back) = k.find? (front ++ back) := by
  obtain ⟨w, hlookup, hfind⟩ := find?_of_mem hthere
  have hinserted : (front ++ (k.otherName, v) :: back).lookup k.name = some w := by
    rw [← hlookup, List.lookup_append, List.lookup_append, Entries.lookup_cons_eq_ite, if_neg hother.symm]
  rw [hfind, find?, hinserted]

theorem lookup_replace (front back : List (String × Value)) (name spelling : String) (v v' : Value) :
    (front ++ (name, v) :: back).lookup spelling = (front ++ (name, v') :: back).lookup spelling ∨
      spelling = name ∧ (front ++ (name, v) :: back).lookup spelling = some v ∧
        (front ++ (name, v') :: back).lookup spelling = some v' := by
  simp only [List.lookup_append, Entries.lookup_cons_eq_ite]
  cases front.lookup spelling with
  | some w => exact Or.inl rfl
  | none =>
      by_cases hspelling : spelling = name
      · exact Or.inr ⟨hspelling, by simp [hspelling]⟩
      · simp [hspelling]

/-- The value under one name is replaced. A key finds it only under a spelling of its own. -/
theorem find?_replace (k : Key) (front back : List (String × Value)) (name : String) (v v' : Value) :
    k.find? (front ++ (name, v) :: back) = k.find? (front ++ (name, v') :: back) ∨
      k.IsSpelled name ∧ k.find? (front ++ (name, v) :: back) = some (name, v) ∧
        k.find? (front ++ (name, v') :: back) = some (name, v') := by
  unfold find?
  rcases lookup_replace front back name k.name v v' with hfirst | ⟨rfl, hfirst, hfirst'⟩
  · rw [hfirst]
    cases (front ++ (name, v') :: back).lookup k.name with
    | some w => exact Or.inl rfl
    | none =>
        rcases lookup_replace front back name k.otherName v v' with hsecond | ⟨rfl, hsecond, hsecond'⟩
        · exact Or.inl (congrArg (Option.map (k.otherName, ·)) hsecond)
        · rw [hsecond, hsecond']
          exact Or.inr ⟨Or.inr rfl, rfl, rfl⟩
  · rw [hfirst, hfirst']
    exact Or.inr ⟨Or.inl rfl, rfl, rfl⟩

end Key

namespace Shape

variable {s : Shape} {key key' : Key × Shape} {name : String}

theorem eq_of_isSpelled (hs : s.Unambiguous) (hkey : key ∈ s.keys) (hkey' : key' ∈ s.keys)
    (h : key.1.IsSpelled name) (h' : key'.1.IsSpelled name) : key = key' := by
  have hpairs : s.keys.Pairwise fun x y => ∀ name, x.1.IsSpelled name → y.1.IsSpelled name → x = y := by
    refine (List.pairwise_map.mp hs).imp ?_
    rintro x y ⟨hname, hother⟩ name (rfl | rfl) hy
    · exact absurd hy hname
    · exact absurd hy hother
  have : Std.Symm fun x y : Key × Shape => ∀ name, x.1.IsSpelled name → y.1.IsSpelled name → x = y :=
    ⟨fun x y hxy name hy hx => (hxy name hx hy).symm⟩
  exact List.Pairwise.forall_of_forall (fun _ _ _ _ _ => rfl) hpairs hkey hkey' name h h'

theorem under_eq (hs : s.Unambiguous) (hkey : key ∈ s.keys) (h : key.1.IsSpelled name) :
    s.under name = key.2 := by
  unfold under
  cases hfind : s.keys.find? fun key => key.1.IsSpelled name with
  | none => exact absurd h (by simpa using List.find?_eq_none.mp hfind key hkey)
  | some found =>
      have hspelled : found.1.IsSpelled name := by simpa using List.find?_some hfind
      rw [eq_of_isSpelled hs (List.mem_of_find?_eq_some hfind) hkey hspelled h]
      rfl

/-- One step, seen from one key: an entry that is not read is put into the object, or inside a value of it. -/
theorem findsAlike_of_inserts (hs : s.Unambiguous) {entries entries' : List (String × Value)}
    (h : Inserts s (.object entries) (.object entries')) (hkey : key ∈ s.keys) :
    key.1.FindsAlike key.2 entries entries' := by
  cases h with
  | @entry _ front back name v hignored =>
      refine .same (Eq.symm ?_)
      cases hignored with
      | undeclared hnone => exact Key.find?_insert_of_not_isSpelled (hnone key hkey)
      | hidden hkey' hname hother hthere =>
          by_cases hspelled : key.1.IsSpelled name
          · obtain rfl := eq_of_isSpelled hs hkey hkey' hspelled (Or.inr hname)
            rw [hname]
            exact Key.find?_insert_otherName hother hthere
          · exact Key.find?_insert_of_not_isSpelled hspelled
  | @under _ front back name v v' hinside =>
      rcases Key.find?_replace key.1 front back name v v' with hsame | ⟨hspelled, hfind, hfind'⟩
      · exact .same hsame
      · rw [under_eq hs hkey hspelled] at hinside
        exact .inside hfind hfind' hinside

end Shape

/-! ### Checks of values -/

namespace Check

variable {α : Type} {check : Value → Checked α} {s : Shape}

/-- The check looks at nothing that its shape leaves out. -/
def LooksAt (check : Value → Checked α) (s : Shape) : Prop :=
  ∀ v v', Inserts s v v' → check v = check v'

/-- A check that refuses all lists, sets and objects for the same reason has no need to look inside them. -/
theorem looksAt_of_refuses {mismatch : Mismatch} (hlist : ∀ items, check (.list items) = .fail mismatch)
    (hset : ∀ items, check (.set items) = .fail mismatch)
    (hobject : ∀ entries, check (.object entries) = .fail mismatch) : LooksAt check s := by
  intro v v' h
  cases h with
  | entry _ => rw [hobject, hobject]
  | under _ => rw [hobject, hobject]
  | item _ => rw [hlist, hlist]
  | member _ => rw [hset, hset]

theorem looksAt_looseText : LooksAt looseText s :=
  looksAt_of_refuses (fun _ => rfl) (fun _ => rfl) fun _ => rfl

theorem looksAt_text : LooksAt text s :=
  looksAt_of_refuses (fun _ => rfl) (fun _ => rfl) fun _ => rfl

theorem looksAt_nonEmptyText : LooksAt nonEmptyText s :=
  looksAt_of_refuses (fun _ => rfl) (fun _ => rfl) fun _ => rfl

theorem looksAt_boolean : LooksAt boolean s :=
  looksAt_of_refuses (fun _ => rfl) (fun _ => rfl) fun _ => rfl

theorem looksAt_integer : LooksAt integer s :=
  looksAt_of_refuses (fun _ => rfl) (fun _ => rfl) fun _ => rfl

theorem looksAt_choice {choices : List (String × α)} : LooksAt (choice choices) s :=
  looksAt_of_refuses (fun _ => rfl) (fun _ => rfl) fun _ => rfl

/-- An entry is put into a list, a set or an object, and none of them is null. -/
theorem looksAt_optional (h : LooksAt check s) : LooksAt (optional check) s := by
  intro v v' hv
  have hcheck := h v v' hv
  cases hv <;> simp only [optional, hcheck]

theorem looksAt_optional_text : LooksAt (optional text) s :=
  looksAt_optional looksAt_text

theorem looksAt_optional_boolean : LooksAt (optional boolean) s :=
  looksAt_optional looksAt_boolean

theorem looksAt_optional_integer : LooksAt (optional integer) s :=
  looksAt_optional looksAt_integer

theorem itemsFrom_replace (index : Nat) (front back : List Value) {v v' : Value} (h : check v = check v') :
    itemsFrom check index (front ++ v :: back) = itemsFrom check index (front ++ v' :: back) := by
  induction front generalizing index with
  | nil => rw [List.nil_append, List.nil_append, itemsFrom, itemsFrom, h]
  | cons w front ih => rw [List.cons_append, List.cons_append, itemsFrom, itemsFrom, ih]

theorem looksAt_listOf (h : LooksAt check s.item) : LooksAt (listOf check) s := by
  intro v v' hv
  cases hv with
  | entry _ => rfl
  | under _ => rfl
  | item hitem => exact itemsFrom_replace 0 _ _ (h _ _ hitem)
  | member hitem => exact itemsFrom_replace 0 _ _ (h _ _ hitem)

/-- It is enough that the check of the entries cannot tell apart what its keys find alike. -/
theorem looksAt_objectOf {kind : String} {check : List (String × Value) → Checked α} (hs : s.Unambiguous)
    (h : ∀ entries entries', (∀ key ∈ s.keys, key.1.FindsAlike key.2 entries entries') →
      check entries = check entries') : LooksAt (objectOf kind check) s := by
  intro v v' hv
  cases hv with
  | entry hignored => exact h _ _ fun _ => Shape.findsAlike_of_inserts hs (.entry hignored)
  | under hinside => exact h _ _ fun _ => Shape.findsAlike_of_inserts hs (.under hinside)
  | item _ => rfl
  | member _ => rfl

end Check

namespace Key.FindsAlike

variable {α : Type} {k : Key} {s : Shape} {check : Value → Checked α}
  {entries entries' : List (String × Value)}

theorem required (h : k.FindsAlike s entries entries') (hcheck : Check.LooksAt check s) :
    k.required check entries = k.required check entries' := by
  unfold Key.required
  cases h with
  | same hfind => rw [hfind]
  | inside hfind hfind' hv => simp only [hfind, hfind', hcheck _ _ hv]

theorem withDefault {default : α} (h : k.FindsAlike s entries entries') (hcheck : Check.LooksAt check s) :
    k.withDefault default check entries = k.withDefault default check entries' := by
  unfold Key.withDefault
  cases h with
  | same hfind => rw [hfind]
  | inside hfind hfind' hv => simp only [hfind, hfind', hcheck _ _ hv]

end Key.FindsAlike

end Document

/-! ### The records of a diagram -/

section Records

open Check

variable {entries entries' : List (String × Value)}

def FieldType.shape : Shape :=
  .object [(Key.plain "name", .plain), (Key.plain "id", .plain)]

theorem FieldType.check_congr (h : ∀ key ∈ shape.keys, key.1.FindsAlike key.2 entries entries') :
    FieldType.check entries = FieldType.check entries' := by
  simp only [shape, Shape.keys, List.forall_mem_cons] at h
  obtain ⟨hname, hid, _⟩ := h
  unfold FieldType.check
  rw [hname.required looksAt_nonEmptyText, hid.withDefault looksAt_optional_text]

theorem MaxLength.looksAt_check {s : Shape} : Check.LooksAt MaxLength.check s := by
  intro v v' h
  unfold MaxLength.check
  rw [looksAt_looseText v v' h, looksAt_integer v v' h]

def Field.shape : Shape :=
  .object [(Key.plain "id", .plain), (Key.plain "name", .plain), (Key.plain "type", FieldType.shape),
    (Key.mk "primaryKey" "primary_key", .plain), (Key.plain "nullable", .plain), (Key.plain "unique", .plain),
    (Key.plain "increment", .plain), (Key.plain "default", .plain), (Key.plain "precision", .plain),
    (Key.plain "scale", .plain), (Key.mk "characterMaximumLength" "character_maximum_length", .plain),
    (Key.plain "comments", .plain)]

theorem Field.check_congr (h : ∀ key ∈ shape.keys, key.1.FindsAlike key.2 entries entries') :
    Field.check entries = Field.check entries' := by
  have hfieldType : Check.LooksAt (Check.objectOf "FieldTypeSchema" FieldType.check) FieldType.shape :=
    looksAt_objectOf (by decide) fun _ _ => FieldType.check_congr
  simp only [shape, Shape.keys, List.forall_mem_cons] at h
  obtain ⟨hid, hname, htype, hprimaryKey, hnullable, hunique, hincrement, h⟩ := h
  obtain ⟨hdefault, hprecision, hscale, hlength, hcomments, _⟩ := h
  unfold Field.check
  rw [hid.required looksAt_looseText, hname.required looksAt_nonEmptyText, htype.required hfieldType,
    hprimaryKey.withDefault looksAt_boolean, hnullable.withDefault looksAt_boolean,
    hunique.withDefault looksAt_boolean, hincrement.withDefault looksAt_optional_boolean,
    hdefault.withDefault looksAt_optional_text, hprecision.withDefault looksAt_optional_integer,
    hscale.withDefault looksAt_optional_integer,
    hlength.withDefault (looksAt_optional MaxLength.looksAt_check),
    hcomments.withDefault looksAt_optional_text]

def Index.shape : Shape :=
  .object [(Key.plain "name", .plain), (Key.mk "fieldIds" "field_ids", .list .plain),
    (Key.plain "unique", .plain), (Key.mk "isPrimaryKey" "is_primary_key", .plain), (Key.plain "id", .plain)]

theorem Index.check_congr (h : ∀ key ∈ shape.keys, key.1.FindsAlike key.2 entries entries') :
    Index.check entries = Index.check entries' := by
  simp only [shape, Shape.keys, List.forall_mem_cons] at h
  obtain ⟨hname, hfieldIds, hunique, hisPrimaryKey, hid, _⟩ := h
  unfold Index.check
  rw [hname.required looksAt_text, hfieldIds.withDefault (looksAt_listOf looksAt_looseText),
    hunique.withDefault looksAt_boolean, hisPrimaryKey.withDefault looksAt_optional_boolean,
    hid.withDefault looksAt_optional_text]

def Table.shape : Shape :=
  .object [(Key.plain "id", .plain), (Key.plain "name", .plain), (Key.mk "schema" "schema_name", .plain),
    (Key.mk "isView" "is_view", .plain), (Key.plain "fields", .list Field.shape),
    (Key.plain "indexes", .list Index.shape), (Key.plain "comments", .plain)]

theorem Table.check_congr (h : ∀ key ∈ shape.keys, key.1.FindsAlike key.2 entries entries') :
    Table.check entries = Table.check entries' := by
  have hfield : Check.LooksAt (Check.objectOf "FieldSchema" Field.check) Field.shape :=
    looksAt_objectOf (by decide) fun _ _ => Field.check_congr
  have hindex : Check.LooksAt (Check.objectOf "IndexSchema" Index.check) Index.shape :=
    looksAt_objectOf (by decide) fun _ _ => Index.check_congr
  simp only [shape, Shape.keys, List.forall_mem_cons] at h
  obtain ⟨hid, hname, hschema, hisView, hfields, hindexes, hcomments, _⟩ := h
  unfold Table.check
  rw [hid.required looksAt_looseText, hname.required looksAt_nonEmptyText,
    hschema.withDefault looksAt_optional_text, hisView.withDefault looksAt_optional_boolean,
    hfields.withDefault (looksAt_listOf hfield), hindexes.withDefault (looksAt_listOf hindex),
    hcomments.withDefault looksAt_optional_text]

def Relationship.shape : Shape :=
  .object [(Key.mk "sourceTableId" "source_table_id", .plain),
    (Key.mk "sourceFieldId" "source_field_id", .plain), (Key.mk "targetTableId" "target_table_id", .plain),
    (Key.mk "targetFieldId" "target_field_id", .plain),
    (Key.mk "sourceCardinality" "source_cardinality", .plain),
    (Key.mk "targetCardinality" "target_cardinality", .plain), (Key.plain "id", .plain),
    (Key.plain "name", .plain), (Key.plain "cascade", .plain)]

theorem Relationship.check_congr (h : ∀ key ∈ shape.keys, key.1.FindsAlike key.2 entries entries') :
    Relationship.check entries = Relationship.check entries' := by
  simp only [shape, Shape.keys, List.forall_mem_cons] at h
  obtain ⟨hsourceTable, hsourceField, htargetTable, htargetField, hsource, htarget, h⟩ := h
  obtain ⟨hid, hname, hcascade, _⟩ := h
  unfold Relationship.check
  rw [hsourceTable.required looksAt_looseText, hsourceField.required looksAt_looseText,
    htargetTable.required looksAt_looseText, htargetField.required looksAt_looseText,
    hsource.withDefault looksAt_choice, htarget.withDefault looksAt_choice,
    hid.withDefault looksAt_optional_text, hname.withDefault looksAt_optional_text,
    hcascade.withDefault looksAt_optional_text]

def CustomType.shape : Shape :=
  .object [(Key.plain "name", .plain), (Key.plain "kind", .plain), (Key.plain "values", .list .plain),
    (Key.mk "schema" "schema_name", .plain), (Key.plain "id", .plain)]

theorem CustomType.check_congr (h : ∀ key ∈ shape.keys, key.1.FindsAlike key.2 entries entries') :
    CustomType.check entries = CustomType.check entries' := by
  simp only [shape, Shape.keys, List.forall_mem_cons] at h
  obtain ⟨hname, hkind, hvalues, hschema, hid, _⟩ := h
  unfold CustomType.check
  rw [hname.required looksAt_looseText, hkind.withDefault looksAt_choice,
    hvalues.withDefault (looksAt_listOf looksAt_text), hschema.withDefault looksAt_optional_text,
    hid.withDefault looksAt_optional_text]

namespace Diagram

def shape : Shape :=
  .object [(Key.mk "databaseType" "database_type", .plain), (Key.plain "tables", .list Table.shape),
    (Key.plain "relationships", .list Relationship.shape),
    (Key.mk "customTypes" "custom_types", .list CustomType.shape), (Key.plain "name", .plain),
    (Key.plain "id", .plain)]

theorem check_congr (h : ∀ key ∈ shape.keys, key.1.FindsAlike key.2 entries entries') :
    Diagram.check entries = Diagram.check entries' := by
  have htable : Check.LooksAt (Check.objectOf "TableSchema" Table.check) Table.shape :=
    looksAt_objectOf (by decide) fun _ _ => Table.check_congr
  have hrelationship : Check.LooksAt (Check.objectOf "RelationshipSchema" Relationship.check)
      Relationship.shape :=
    looksAt_objectOf (by decide) fun _ _ => Relationship.check_congr
  have htype : Check.LooksAt (Check.objectOf "CustomTypeSchema" CustomType.check) CustomType.shape :=
    looksAt_objectOf (by decide) fun _ _ => CustomType.check_congr
  simp only [shape, Shape.keys, List.forall_mem_cons] at h
  obtain ⟨hdatabase, htables, hrelationships, hcustomTypes, hname, hid, _⟩ := h
  unfold Diagram.check
  rw [hdatabase.withDefault looksAt_choice, htables.withDefault (looksAt_listOf htable),
    hrelationships.withDefault (looksAt_listOf hrelationship),
    hcustomTypes.withDefault (looksAt_listOf htype), hname.withDefault looksAt_optional_text,
    hid.withDefault looksAt_optional_text]

theorem ofValue_eq_of_inserts {v v' : Value} (h : Inserts shape v v') : ofValue v = ofValue v' := by
  have hs : shape.Unambiguous := by decide
  cases h with
  | @entry _ front back name v hignored =>
      have hcheck : check (front ++ back) = check (front ++ (name, v) :: back) :=
        check_congr fun _ => Shape.findsAlike_of_inserts hs (.entry hignored)
      simp only [ofValue, hcheck]
  | @under _ front back name v v' hinside =>
      have hcheck : check (front ++ (name, v) :: back) = check (front ++ (name, v') :: back) :=
        check_congr fun _ => Shape.findsAlike_of_inserts hs (.under hinside)
      simp only [ofValue, hcheck]
  | item _ => rfl
  | member _ => rfl

/-- **Unread entries.** Two documents that differ by entries which are not read, put in or taken out in any
objects at any depth, give the same diagram or the same problems in the same order. -/
theorem unread_entries_irrelevant {v v' : Value} (h : Relation.EqvGen (Inserts shape) v v') :
    ofValue v = ofValue v' := by
  induction h with
  | rel v v' hstep => exact ofValue_eq_of_inserts hstep
  | refl v => rfl
  | symm v v' _ ih => exact ih.symm
  | trans v w v' _ _ ih ih' => exact ih.trans ih'

end Diagram

end Records

namespace Museum

/-- The table has no name, its schema is no text, and the name of its field is empty. -/
def document (others : List (String × Value)) : Value :=
  .object [("tables", .list [.object ([("id", .text "e"), ("schema", .int 3)] ++ others ++
    [("fields", .list [.object [("id", .text "f"), ("name", .text ""),
      ("type", .object [("name", .text "text")])]])])])]

theorem inserts_document {name : String} {v : Value}
    (h : Table.shape.Ignores ([("id", .text "e"), ("schema", .int 3)] ++
      [("fields", .list [.object [("id", .text "f"), ("name", .text ""),
        ("type", .object [("name", .text "text")])]])]) name) :
    Inserts Diagram.shape (document []) (document [(name, v)]) :=
  @Inserts.under _ [] [] "tables" _ _ (@Inserts.item _ [] [] _ _ (.entry h))

/-- A place on the canvas gives way to a second spelling of the schema, and the three problems stay. -/
theorem same_problems_without_place :
    Relation.EqvGen (Inserts Diagram.shape) (document [("x", .int 40)])
      (document [("schema_name", .text "art")]) ∧
    Diagram.ofValue (document [("x", .int 40)]) = Diagram.ofValue (document [("schema_name", .text "art")]) ∧
    Diagram.ofValue (document [("schema_name", .text "art")]) = .error (.invalid
      [⟨[.key "tables", .item 0, .key "name"], .missing⟩,
        ⟨[.key "tables", .item 0, .key "schema"], .notText⟩,
        ⟨[.key "tables", .item 0, .key "fields", .item 0, .key "name"], .tooShort⟩]) := by
  have hplace : Inserts Diagram.shape (document []) (document [("x", .int 40)]) :=
    inserts_document (.undeclared (by decide))
  have hspelling : Inserts Diagram.shape (document []) (document [("schema_name", .text "art")]) := by
    have hkey : (Key.mk "schema" "schema_name", Shape.plain) ∈ Table.shape.keys := by
      simp [Table.shape, Shape.keys]
    exact inserts_document (.hidden hkey rfl (by decide) (by decide))
  have hdocuments : Relation.EqvGen (Inserts Diagram.shape) (document [("x", .int 40)])
      (document [("schema_name", .text "art")]) :=
    .trans _ _ _ (.symm _ _ (.rel _ _ hplace)) (.rel _ _ hspelling)
  exact ⟨hdocuments, Diagram.unread_entries_irrelevant hdocuments, rfl⟩

end Museum

end SchemaScribe
