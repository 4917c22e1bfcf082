import SchemaScribe.Proofs.AlikeRelationships
import SchemaScribe.Proofs.Checks
import SchemaScribe.Proofs.DeclaredSchema
import SchemaScribe.Proofs.JoinConditions
import SchemaScribe.Proofs.LineBreaks
import SchemaScribe.Proofs.Views

/-!
# The cascade policies that a module prints

The policy of the options is trimmed, and a blank one is refused. The cascade that a relationship has of its own
is printed as the document gives it. So whether a printed policy begins and ends with characters other than
blanks is decided by the cascades of the relationships between one and many.
-/

namespace SchemaScribe

open Document Source Text

/-- A text that begins and ends with characters other than blanks. -/
structure IsCascadePolicy (text : String) : Prop where
  head : ∃ c, text.toList.head? = some c ∧ isBlank c = false
  last : ∃ c, text.toList.getLast? = some c ∧ isBlank c = false

/-- The line belongs to a side of a relationship, and this policy is the value of its cascade. -/
def Blueprint.PrintsPolicy (b : Blueprint) (t : Table) (line policy : String) : Prop :=
  ∃ r ∈ b.relationships, ∃ side, r.side? t = some side ∧ line = (b.relationshipAttribute r side).render ∧
    literal policy ∈ (b.relationshipAttribute r side).valuesOf "cascade"

/-! ### Trimming -/

theorem Text.exists_head?_dropWhile {p : Char → Bool} {cs : List Char} (h : cs.dropWhile p ≠ []) :
    ∃ c, (cs.dropWhile p).head? = some c ∧ p c = false := by
  have hhead := List.head?_dropWhile_not p cs
  cases hrest : cs.dropWhile p with
  | nil => exact absurd hrest h
  | cons c rest =>
      rw [hrest] at hhead
      exact ⟨c, rfl, by simpa using hhead⟩

theorem Text.exists_getLast?_dropEndWhile {p : Char → Bool} {cs : List Char} (h : dropEndWhile p cs ≠ []) :
    ∃ c, (dropEndWhile p cs).getLast? = some c ∧ p c = false := by
  unfold dropEndWhile at h ⊢
  rw [List.getLast?_reverse]
  apply exists_head?_dropWhile
  simpa using h

theorem isCascadePolicy_trim {s : String} (h : trim s ≠ "") : IsCascadePolicy (trim s) := by
  have htrim : (trim s).toList = dropEndWhile isBlank (s.toList.dropWhile isBlank) := by
    rw [trim, String.toList_ofList, trimBy]
  have hne : dropEndWhile isBlank (s.toList.dropWhile isBlank) ≠ [] := by
    rwa [← htrim, ne_eq, String.toList_eq_nil_iff]
  have hstart : s.toList.dropWhile isBlank ≠ [] := by
    intro hnil
    exact hne (by rw [hnil]; rfl)
  constructor
  · rw [htrim, head?_dropEndWhile hne]
    exact exists_head?_dropWhile hstart
  · rw [htrim]
    exact exists_getLast?_dropEndWhile hne

theorem isCascadePolicy_of_checkCascade {v : Value} {s : String} (h : checkCascade v = .valid s) :
    IsCascadePolicy s := by
  obtain ⟨read, _, hread⟩ := Checked.andThen_eq_valid_iff.mp h
  by_cases hempty : trim read = ""
  · rw [if_pos hempty] at hread
    cases hread
  · rw [if_neg hempty] at hread
    obtain rfl := Checked.valid.inj hread
    exact isCascadePolicy_trim hempty

theorem Options.isCascadePolicy_default : IsCascadePolicy ({} : Options).cascade :=
  ⟨⟨'a', by decide⟩, ⟨'n', by decide⟩⟩

theorem Options.isCascadePolicy_of_check {entries : List (String × Value)} {options : Options}
    (h : Options.check entries = .valid options) : IsCascadePolicy options.cascade := by
  obtain ⟨_, _, hread, _, rfl⟩ := Checked.seq_eq_valid_iff.mp h
  obtain ⟨cascade, hcascade, rfl⟩ := Checked.map_eq_valid_iff.mp hread
  rcases Key.exists_of_withDefault hcascade with rfl | ⟨v, hv⟩
  · exact isCascadePolicy_default
  · exact isCascadePolicy_of_checkCascade hv

/-! ### Lines -/

namespace Blueprint

variable {b : Blueprint} {t : Table} {line policy : String}

/-- Only the one end of a relationship between one and many has a cascade. -/
theorem valuesOf_cascade (b : Blueprint) (r : ClassifiedRelationship) (side : Side) :
    (b.relationshipAttribute r side).valuesOf "cascade" =
      if r.kind = .oneToMany ∧ side = .first then [literal (b.cascadeFor r)] else [] := by
  unfold RelationshipAttribute.valuesOf relationshipAttribute relationshipKeywords
  cases r.kind with
  | oneToMany => cases side <;> simp [lazyLoading]
  | oneToOne => simp [lazyLoading]
  | manyToMany => cases b.associationFor? r <;> simp [lazyLoading]

theorem printsPolicy_iff :
    b.PrintsPolicy t line policy ↔
      ∃ r ∈ b.relationships, r.kind = .oneToMany ∧ r.side? t = some .first ∧
        line = (b.relationshipAttribute r .first).render ∧ policy = b.cascadeFor r := by
  constructor
  · rintro ⟨r, hr, side, hside, hline, hvalue⟩
    rw [valuesOf_cascade] at hvalue
    by_cases honeToMany : r.kind = .oneToMany ∧ side = .first
    · rw [if_pos honeToMany, List.mem_singleton, literal_inj] at hvalue
      obtain ⟨hkind, rfl⟩ := honeToMany
      exact ⟨r, hr, hkind, hside, hline, hvalue⟩
    · rw [if_neg honeToMany] at hvalue
      exact absurd hvalue List.not_mem_nil
  · rintro ⟨r, hr, hkind, hside, hline, rfl⟩
    refine ⟨r, hr, .first, hside, hline, ?_⟩
    rw [valuesOf_cascade, if_pos ⟨hkind, rfl⟩]
    exact List.mem_singleton_self _

theorem PrintsPolicy.text (h : b.PrintsPolicy t line policy) :
    line ∈ b.relationshipLines t ∧
      ∃ front back, line = front ++ "cascade" ++ "=" ++ literal policy ++ back := by
  obtain ⟨r, hr, side, hside, rfl, hvalue⟩ := h
  exact ⟨(directedAt_relationshipAttribute hr hside).1,
    RelationshipAttribute.exists_render_eq_of_mem_valuesOf hvalue⟩

end Blueprint

/-! ### Relationships of a document -/

theorem Relationship.isCascadePolicy_policy_iff {r : Relationship} {options : Options}
    (hoptions : IsCascadePolicy options.cascade) (hr : r.cascade ≠ some "") :
    IsCascadePolicy (r.policy options) ↔ ∀ own, r.cascade = some own → IsCascadePolicy own := by
  rw [policy_eq hr]
  cases r.cascade with
  | none => simp [hoptions]
  | some own => simp

namespace Diagram

variable {d : Diagram} {options : Options} {b : Blueprint}

theorem exists_classify_of_mem (hb : d.blueprint options = .ok b) {r : ClassifiedRelationship}
    (hr : r ∈ b.relationships) :
    r.relationship ∈ d.relationships ∧ ∃ ordinal, d.classify r.relationship ordinal = .ok r := by
  obtain ⟨rs, hrs, rfl⟩ := blueprint_eq_ok_iff.mp hb
  obtain ⟨declared, hdeclared, ordinal, hclassify⟩ :=
    exists_of_forall₂ (forall₂_of_classifyFrom hrs).flip hr
  rw [relationship_of_classify_eq_ok hclassify]
  exact ⟨hdeclared, ordinal, hclassify⟩

theorem cascadeFor_eq_policy (hb : d.blueprint options = .ok b) (r : ClassifiedRelationship) :
    b.cascadeFor r = r.relationship.policy options := by
  obtain ⟨_, _, rfl⟩ := blueprint_eq_ok_iff.mp hb
  rfl

/-- **Printed policies.** The policy of checked options begins and ends with characters other than blanks. In a
diagram that was read from a document, the same holds of all policies in the lines of classes exactly if it
holds of the cascades that relationships between one and many have of their own, as far as their first end
has a class. -/
theorem printed_policies_iff {v : Value} {entries : List (String × Value)} (hd : ofValue v = .ok d)
    (hoptions : Options.check entries = .valid options) (hb : d.blueprint options = .ok b) :
    IsCascadePolicy options.cascade ∧
    (∀ t line policy, b.PrintsPolicy t line policy →
      (∀ m, b.modelClass t = .ok m → line ∈ m.relationships) ∧
      (∃ front back, line = front ++ "cascade" ++ "=" ++ literal policy ++ back) ∧
      ∃ r ∈ d.relationships, r.cascade = some policy ∨ r.cascade = none ∧ policy = options.cascade) ∧
    (∀ r ∈ b.relationships, r.kind = .oneToMany →
      b.PrintsPolicy r.first.table (b.relationshipAttribute r .first).render
        (r.relationship.policy options) ∧
      (IsCascadePolicy (r.relationship.policy options) ↔
        ∀ own, r.relationship.cascade = some own → IsCascadePolicy own)) ∧
    ((∀ t ∈ d.tables, t.isView = false → ∀ line policy, b.PrintsPolicy t line policy →
        IsCascadePolicy policy) ↔
      ∀ r ∈ b.relationships, r.kind = .oneToMany → d.HasClassAt r .first →
        ∀ own, r.relationship.cascade = some own → IsCascadePolicy own) := by
  have hpolicy := Options.isCascadePolicy_of_check hoptions
  have hnonempty : ∀ r ∈ b.relationships, r.relationship.cascade ≠ some "" := by
    intro r hr
    exact (wellNamed_of_ofValue hd).cascades _ (exists_classify_of_mem hb hr).1
  have howner : ∀ r ∈ b.relationships, (IsCascadePolicy (r.relationship.policy options) ↔
      ∀ own, r.relationship.cascade = some own → IsCascadePolicy own) := by
    intro r hr
    exact Relationship.isCascadePolicy_policy_iff hpolicy (hnonempty r hr)
  refine ⟨hpolicy, ?_, ?_, ?_⟩
  · intro t line policy hprints
    obtain ⟨hline, htext⟩ := hprints.text
    obtain ⟨r, hr, _, _, _, rfl⟩ := Blueprint.printsPolicy_iff.mp hprints
    have hclass : ∀ m, b.modelClass t = .ok m → line ∈ m.relationships := by
      intro m hm
      rwa [Blueprint.relationships_of_modelClass hm]
    refine ⟨hclass, htext, r.relationship, (exists_classify_of_mem hb hr).1, ?_⟩
    rw [cascadeFor_eq_policy hb, Relationship.policy_eq (hnonempty r hr)]
    cases r.relationship.cascade with
    | none => exact Or.inr ⟨rfl, rfl⟩
    | some own => exact Or.inl rfl
  · intro r hr hkind
    refine ⟨?_, howner r hr⟩
    rw [Blueprint.printsPolicy_iff, ← cascadeFor_eq_policy hb]
    exact ⟨r, hr, hkind, if_pos rfl, rfl, rfl⟩
  · constructor
    · rintro hall r hr hkind ⟨t, ht, hview, hside⟩
      apply (howner r hr).mp
      apply hall t ht hview (b.relationshipAttribute r .first).render
      rw [Blueprint.printsPolicy_iff, ← cascadeFor_eq_policy hb]
      exact ⟨r, hr, hkind, hside, rfl, rfl⟩
    · intro hall t ht hview line policy hprints
      obtain ⟨r, hr, hkind, hside, _, rfl⟩ := Blueprint.printsPolicy_iff.mp hprints
      rw [cascadeFor_eq_policy hb]
      exact (howner r hr).mpr (hall r hr hkind ⟨t, ht, hview, hside⟩)

end Diagram

namespace Bookshop

def authorId : Field := { id := "a1", name := "id", type := ⟨"integer", none⟩, primaryKey := true }

def bookId : Field := { id := "b1", name := "id", type := ⟨"integer", none⟩, primaryKey := true }

def writerId : Field := { id := "b2", name := "author_id", type := ⟨"integer", none⟩ }

def authors : Table := { id := "a", name := "authors", fields := [authorId] }

def books : Table := { id := "b", name := "books", fields := [bookId, writerId] }

/-- Authors and their books, with a cascade of their own. -/
def authorship (cascade : String) : Relationship where
  sourceTableId := "a"
  sourceFieldId := "a1"
  targetTableId := "b"
  targetFieldId := "b2"
  cascade := some cascade

def diagram (cascade : String) : Diagram where
  tables := [authors, books]
  relationships := [authorship cascade]

def field (id name : String) (primaryKey : Bool) : Value :=
  .object [("id", .text id), ("name", .text name), ("type", .object [("name", .text "integer")]),
    ("primaryKey", .bool primaryKey)]

def document (cascade : String) : Value :=
  .object [
    ("tables", .list [
      .object [("id", .text "a"), ("name", .text "authors"), ("fields", .list [field "a1" "id" true])],
      .object [("id", .text "b"), ("name", .text "books"),
        ("fields", .list [field "b1" "id" true, field "b2" "author_id" false])]]),
    ("relationships", .list [
      .object [("sourceTableId", .text "a"), ("sourceFieldId", .text "a1"), ("targetTableId", .text "b"),
        ("targetFieldId", .text "b2"), ("cascade", .text cascade)]])]

def writing (cascade : String) : ClassifiedRelationship :=
  ⟨.oneToMany, ⟨authors, authorId⟩, ⟨books, writerId⟩, authorship cascade, 0⟩

def blueprint (cascade : String) (options : Options) : Blueprint :=
  .ofRelationships (diagram cascade) options [writing cascade]

/-- The options are trimmed, and the authors have a trimmed cascade of their own. -/
theorem merging_is_trimmed :
    IsCascadePolicy "all" ∧
      (blueprint "merge" ⟨"all"⟩).PrintsPolicy authors
        ((blueprint "merge" ⟨"all"⟩).relationshipAttribute (writing "merge") .first).render "merge" ∧
      IsCascadePolicy "merge" := by
  have hread : Diagram.ofValue (document "merge") = .ok (diagram "merge") := rfl
  have hoptions : Options.check [("cascade", .text " all ")] = .valid ⟨"all"⟩ := rfl
  have hb : (diagram "merge").blueprint ⟨"all"⟩ = .ok (blueprint "merge" ⟨"all"⟩) := rfl
  obtain ⟨hdefault, _, howner, _⟩ := Diagram.printed_policies_iff hread hoptions hb
  obtain ⟨hprints, hpolicy⟩ := howner (writing "merge") (List.mem_singleton_self _) rfl
  refine ⟨hdefault, hprints, hpolicy.mpr ?_⟩
  intro own hown
  obtain rfl : "merge" = own := Option.some.inj hown
  exact ⟨⟨'m', by decide⟩, ⟨'e', by decide⟩⟩

/-- A cascade that a relationship has of its own is printed with the blanks around it. -/
theorem saving_keeps_blanks :
    Diagram.ofValue (document " save-update ") = .ok (diagram " save-update ") ∧
      Options.check [] = .valid {} ∧
      (diagram " save-update ").blueprint {} = .ok (blueprint " save-update " {}) ∧
      authors ∈ (diagram " save-update ").tables ∧ authors.isView = false ∧
      (∃ line, (blueprint " save-update " {}).relationshipLines authors = [line] ∧
        line = "    books: Mapped[list[Books]] = relationship(\"Books\", back_populates=\"authors\", " ++
          "lazy=\"selectin\", cascade=\" save-update \")" ∧
        (blueprint " save-update " {}).PrintsPolicy authors line " save-update ") ∧
      ¬ IsCascadePolicy " save-update " := by
  refine ⟨rfl, rfl, rfl, by decide, rfl, ⟨_, rfl, by decide +kernel, ?_⟩, ?_⟩
  · exact Blueprint.printsPolicy_iff.mpr ⟨_, List.mem_singleton_self _, rfl, rfl, rfl, rfl⟩
  · rintro ⟨⟨c, hc, hblank⟩, _⟩
    obtain rfl : ' ' = c := Option.some.inj hc
    exact absurd hblank (by decide)

end Bookshop

end SchemaScribe
