import SchemaScribe.Proofs.ModelClass

/-!
# The keywords of a column

They stand in one order, each of them at most once. The only keywords that could meet are those that the name
of a field asks for, since the time of creation and the time of the last update both are server defaults. But
no name asks for both: without a line feed at its end, it ends in one of two words of the same length.
-/

namespace SchemaScribe

open Source

/-! ### What a name asks for -/

namespace Text

/-- A word at the end of a text stays there without a final line feed, unless the word itself ends in one. -/
theorem isSuffix_withoutFinalLineFeed {word cs : List Char} (hne : word ≠ [])
    (hword : word.getLast? ≠ some '\n') (h : word <:+ cs) : word <:+ withoutFinalLineFeed cs := by
  have hlast : cs.getLast? ≠ some '\n' := by
    obtain ⟨front, rfl⟩ := h
    rwa [List.getLast?_append_of_ne_nil front hne]
  rwa [withoutFinalLineFeed, if_neg hlast]

end Text

namespace Field

variable {f : Field} {types : TypeContext} {compositeKey : Bool} {foreignKey : Option Endpoint} {k : Keyword}

theorem isSuffix_of_endsInWords {words name : List Char} (hne : words ≠ [])
    (hwords : words.getLast? ≠ some '\n') (h : endsInWords words name = true) :
    words <:+ Text.withoutFinalLineFeed name := by
  have hends : ∀ cs : List Char, (cs = words || ('_' :: words).isSuffixOf cs) = true → words <:+ cs := by
    intro cs hcs
    rw [Bool.or_eq_true, decide_eq_true_iff, List.isSuffixOf_iff_suffix] at hcs
    rcases hcs with rfl | hcs
    · exact List.suffix_rfl
    · exact (List.suffix_cons '_' words).trans hcs
  unfold endsInWords at h
  rcases Bool.or_eq_true_iff.mp h with h | h
  · exact Text.isSuffix_withoutFinalLineFeed hne hwords (hends name h)
  · exact hends _ h

theorem not_isUpdateTime_of_isCreationTime (h : f.isCreationTime = true) : f.isUpdateTime = false := by
  rw [Bool.eq_false_iff]
  intro hupdate
  -- Both words would end the same text, and they have the same length.
  have hcreated := isSuffix_of_endsInWords (by decide) (by decide) h
  have hupdated := isSuffix_of_endsInWords (by decide) (by decide) hupdate
  have hsuffix := List.suffix_of_suffix_length_le hcreated hupdated (by decide)
  exact absurd (hsuffix.eq_of_length (by decide)) (by decide)

/-! ### The order of the keywords -/

/-- The keywords that a column can have, in the order in which they are written. -/
def keywordOrder : List String :=
  ["primary_key", "autoincrement", "nullable", "unique", "server_default", "onupdate", "index", "default"]

theorem names_defaultKeywords (f : Field) :
    (f.defaultKeywords.map Keyword.name).Sublist ["server_default", "onupdate"] := by
  unfold defaultKeywords
  cases nonEmpty f.default with
  | some default => cases f.increment <;> simp
  | none =>
      cases hcreation : f.isCreationTime with
      | false => cases f.isUpdateTime <;> simp
      | true => simp [not_isUpdateTime_of_isCreationTime hcreation]

theorem names_keywords (f : Field) (compositeKey : Bool) (foreignKey : Option Endpoint) :
    ((f.keywords compositeKey foreignKey).map Keyword.name).Sublist keywordOrder := by
  have hpresent : ∀ (p : Bool) (k : Keyword), ((if p then [k] else []).map Keyword.name).Sublist [k.name] := by
    intro p k
    cases p <;> simp
  have habsent : ∀ (p : Bool) (k : Keyword), ((if p then [] else [k]).map Keyword.name).Sublist [k.name] := by
    intro p k
    cases p <;> simp
  -- The sublists are put together in the order in which `keywords` puts its parts together.
  unfold keywords
  simp only [List.map_append]
  exact ((((((hpresent _ ⟨"primary_key", "True"⟩).append (hpresent _ ⟨"autoincrement", "True"⟩)).append
    (habsent _ ⟨"nullable", "False"⟩)).append (hpresent _ ⟨"unique", "True"⟩)).append
    f.names_defaultKeywords).append (hpresent _ ⟨"index", "True"⟩)).append
    (hpresent _ ⟨"default", "uuid.uuid4"⟩)

/-! ### Their values -/

/-- The keywords whose values are the same for every field. -/
def fixedKeywords : List Keyword :=
  [⟨"primary_key", "True"⟩, ⟨"autoincrement", "True"⟩, ⟨"nullable", "False"⟩, ⟨"unique", "True"⟩,
    ⟨"index", "True"⟩, ⟨"default", "uuid.uuid4"⟩]

theorem fixedKeywords_not_about_time : ∀ k ∈ fixedKeywords, k.name ≠ "onupdate" ∧ k.value ≠ serverNow := by
  decide

theorem mem_defaultKeywords_or_mem_fixedKeywords (h : k ∈ f.keywords compositeKey foreignKey) :
    k ∈ f.defaultKeywords ∨ k ∈ fixedKeywords := by
  have hpresent : ∀ {p : Bool} {k' : Keyword}, k' ∈ fixedKeywords → k ∈ (if p then [k'] else []) →
      k ∈ fixedKeywords := by
    intro p k' hk' hk
    cases p <;> simp_all
  unfold keywords at h
  simp only [List.mem_append, or_assoc] at h
  rcases h with h | h | h | h | h | h | h
  · exact Or.inr (hpresent (by decide) h)
  · exact Or.inr (hpresent (by decide) h)
  · cases hnullable : f.nullable <;> simp_all [fixedKeywords]
  · exact Or.inr (hpresent (by decide) h)
  · exact Or.inl h
  · exact Or.inr (hpresent (by decide) h)
  · exact Or.inr (hpresent (by decide) h)

end Field

theorem ServerDefault.expression_ne_serverNow (default : String) : expression default ≠ Field.serverNow := by
  intro h
  -- The one calls `sa.text`, the other `sa.func.now`.
  have hletter := congrArg (fun s : String => s.toList[3]?) h
  simp [expression, call, Field.serverNow] at hletter

namespace Field

variable {f : Field} {compositeKey : Bool} {foreignKey : Option Endpoint} {k : Keyword}

theorem defaultKeywords_of_default {default : String} (hdefault : f.default = some default) (hne : default ≠ "") :
    f.defaultKeywords =
      if f.increment then [] else [⟨"server_default", ServerDefault.expression default⟩] := by
  have hsome : nonEmpty f.default = some default := by
    rw [hdefault, nonEmpty, Option.filter_some, if_pos (by simpa using hne)]
  rw [defaultKeywords, hsome]

theorem value_ne_serverNow_of_default {default : String} (hdefault : f.default = some default)
    (hne : default ≠ "") (hk : k ∈ f.keywords compositeKey foreignKey) : k.value ≠ serverNow := by
  rcases mem_defaultKeywords_or_mem_fixedKeywords hk with hk | hk
  · rw [defaultKeywords_of_default hdefault hne] at hk
    split at hk
    · exact absurd hk List.not_mem_nil
    · obtain rfl := List.mem_singleton.mp hk
      exact ServerDefault.expression_ne_serverNow default
  · exact (fixedKeywords_not_about_time k hk).2

theorem serverNow_mem_defaultKeywords (hk : k ∈ f.defaultKeywords) (hname : k.name = "onupdate") :
    k.value = serverNow ∧ (⟨"server_default", serverNow⟩ : Keyword) ∈ f.defaultKeywords := by
  unfold defaultKeywords at hk ⊢
  cases hdefault : nonEmpty f.default with
  | some default => cases hincrement : f.increment <;> simp_all
  | none =>
      cases hupdate : f.isUpdateTime with
      | false => cases hcreation : f.isCreationTime <;> simp_all
      | true =>
          have hpair : k = ⟨"server_default", serverNow⟩ ∨ k = ⟨"onupdate", serverNow⟩ := by
            cases hcreation : f.isCreationTime <;> simpa [hdefault, hupdate, hcreation] using hk
          rcases hpair with rfl | rfl
          · exact absurd hname (by decide)
          · simp

theorem serverNow_mem_keywords (hk : k ∈ f.keywords compositeKey foreignKey) (hname : k.name = "onupdate") :
    k.value = serverNow ∧ (⟨"server_default", serverNow⟩ : Keyword) ∈ f.keywords compositeKey foreignKey := by
  rcases mem_defaultKeywords_or_mem_fixedKeywords hk with hdefault | hfixed
  · obtain ⟨hvalue, hmem⟩ := serverNow_mem_defaultKeywords hdefault hname
    refine ⟨hvalue, ?_⟩
    simp only [keywords, List.mem_append, hmem, true_or, or_true]
  · exact absurd hname (fixedKeywords_not_about_time k hfixed).1

end Field

/-- **Keywords.** The keywords of a column stand in their order, and no name is used twice. The time of an
update is there only with a server default of the current time, and neither is there if the field declares a
default that is not empty. -/
theorem Column.keywords_in_order {f : Field} {types : TypeContext} {compositeKey : Bool}
    {foreignKey : Option Endpoint} {c : Column} (h : f.column types compositeKey foreignKey = .ok c) :
    (c.keywords.map Keyword.name).Sublist Field.keywordOrder ∧
    (c.keywords.map Keyword.name).Nodup ∧
    (∀ k ∈ c.keywords, k.name = "onupdate" →
      k.value = "sa.func.now()" ∧ ⟨"server_default", "sa.func.now()"⟩ ∈ c.keywords) ∧
    ∀ default, f.default = some default → default ≠ "" → ∀ k ∈ c.keywords, k.value ≠ "sa.func.now()" := by
  obtain ⟨_, _, rfl⟩ := Field.column_eq_ok_iff.mp h
  have horder := f.names_keywords compositeKey foreignKey
  have hdistinct : Field.keywordOrder.Nodup := by decide
  refine ⟨horder, hdistinct.sublist horder, ?_, ?_⟩
  · intro k hk hname
    exact Field.serverNow_mem_keywords hk hname
  · intro default hdefault hne k hk
    exact Field.value_ne_serverNow_of_default hdefault hne hk

namespace Journal

/-- A key that counts up, refers to another field and is named like a time, with the line feed that does not
count. -/
def revision : Field where
  id := "r"
  name := "row_updated_at\n"
  type := ⟨"UUID", none⟩
  primaryKey := true
  nullable := false
  unique := true
  increment := true

def posted : Field :=
  { id := "p", name := "created_at", type := ⟨"timestamp", none⟩, default := some "now()" }

def entries : Table := { id := "e", name := "entries", fields := [revision, posted] }

theorem keywords_of_revision :
    ∃ c c', revision.column ⟨.generic, []⟩ false (some ⟨entries, posted⟩) = .ok c ∧
      posted.column ⟨.generic, []⟩ false none = .ok c' ∧
      c.keywords.map Keyword.name = ["primary_key", "autoincrement", "nullable", "server_default", "onupdate",
        "index", "default"] ∧
      (c.keywords.map Keyword.name).Nodup ∧ ⟨"server_default", "sa.func.now()"⟩ ∈ c.keywords ∧
      ∀ k ∈ c'.keywords, k.value ≠ "sa.func.now()" := by
  obtain ⟨c, hc⟩ : ∃ c, revision.column ⟨.generic, []⟩ false (some ⟨entries, posted⟩) = .ok c := ⟨_, rfl⟩
  obtain ⟨c', hc'⟩ : ∃ c, posted.column ⟨.generic, []⟩ false none = .ok c := ⟨_, rfl⟩
  obtain ⟨_, hdistinct, hupdate, _⟩ := Column.keywords_in_order hc
  have hnames : c.keywords.map Keyword.name = ["primary_key", "autoincrement", "nullable", "server_default",
      "onupdate", "index", "default"] := by
    obtain rfl := Except.ok.inj hc
    decide
  have hmem : (⟨"onupdate", "sa.func.now()"⟩ : Keyword) ∈ c.keywords := by
    obtain rfl := Except.ok.inj hc
    decide
  exact ⟨c, c', hc, hc', hnames, hdistinct, (hupdate _ hmem rfl).2,
    (Column.keywords_in_order hc').2.2.2 "now()" rfl (by decide)⟩

end Journal

end SchemaScribe
