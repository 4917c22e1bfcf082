import Mathlib
import SchemaScribe.Proofs.GenerationOutcome
import SchemaScribe.Proofs.Letters
import SchemaScribe.Proofs.TypeExpression

/-!
# Declared sizes

A maximum length means the same as a number and as a text. A text declares the number that its decimal digits
denote, in whatever scripts, up to the first character that is none; white space may stand before them. Zero and
negative numbers declare no size, so no string type is written with one.
-/

namespace SchemaScribe

/-! ### Numbers in decimal digits -/

namespace Text

theorem foldr_digits_eq_ofDigits {digits : List Char} {values : List Nat}
    (h : List.Forall₂ (fun c value => digitValue? c = some value) digits values) :
    digits.foldr (fun c n => 10 * n + (digitValue? c).getD 0) 0 = Nat.ofDigits 10 values := by
  induction h with
  | nil => rfl
  | cons hdigit _ ih => rw [List.foldr_cons, ih, hdigit, Option.getD_some, Nat.ofDigits_cons, Nat.add_comm]

/-- The most significant digit comes first, so the values are reversed to have the place of each. -/
theorem numberOfDigits_eq_ofDigits {digits : List Char} {values : List Nat}
    (h : List.Forall₂ (fun c value => digitValue? c = some value) digits values) :
    numberOfDigits digits = Nat.ofDigits 10 values.reverse := by
  rw [numberOfDigits, List.foldl_eq_foldr_reverse]
  exact foldr_digits_eq_ofDigits (List.forall₂_reverse_iff.mpr h)

theorem digitValue?_of_isDigit {c : Char} (h : c.isDigit = true) : digitValue? c = some (c.toNat - '0'.toNat) := by
  have hall : ∀ code < 0x80, (Char.ofNat code).isDigit = true →
      digitValue? (Char.ofNat code) = some (code - '0'.toNat) := by
    decide +kernel
  have hascii : c.toNat < 0x80 := by
    simp only [Char.isDigit, Bool.and_eq_true, decide_eq_true_eq] at h
    exact Nat.lt_of_le_of_lt h.2 (by decide)
  rw [← Char.ofNat_toNat c] at h
  simpa only [Char.ofNat_toNat] using hall c.toNat hascii h

/-- A number is read back from the digits in which it is written. -/
theorem numberOfDigits_toDigits (n : Nat) : numberOfDigits (Nat.toDigits 10 n) = n := by
  have hdigits : numberOfDigits (Nat.toDigits 10 n) = Nat.ofDigitChars 10 (Nat.toDigits 10 n) 0 := by
    unfold numberOfDigits Nat.ofDigitChars
    apply List.foldl_ext
    intro m c hc
    have hdigit := Nat.isDigit_of_mem_toDigits (by decide) (by decide) hc
    rw [digitValue?_of_isDigit hdigit, Option.getD_some]
  rw [hdigits, Nat.ofDigitChars_ten_toDigits]

theorem areDisjoint_digitCodes_blankCodes : areDisjoint digitCodes blankCodes = true := by
  decide +kernel

theorem isBlank_of_isDecimalDigit {c : Char} (h : isDecimalDigit c = true) : isBlank c = false := by
  rw [Bool.eq_false_iff, ne_eq, isBlank_iff]
  exact not_mem_of_areDisjoint areDisjoint_digitCodes_blankCodes (isDecimalDigit_iff.mp h)

end Text

open Text

/-- Decimal digits with white space before them and something behind them that is no further digit. -/
structure LeadingNumeral where
  blanks : List Char
  digits : List Char
  values : List Nat
  rest : List Char
  isBlank : ∀ c ∈ blanks, Text.isBlank c = true
  digits_ne_nil : digits ≠ []
  digitValue? : List.Forall₂ (fun c value => Text.digitValue? c = some value) digits values
  rest_head : ∀ c ∈ rest.head?, isDecimalDigit c = false

namespace LeadingNumeral

def text (numeral : LeadingNumeral) : String :=
  String.ofList (numeral.blanks ++ numeral.digits ++ numeral.rest)

/-- The number that the digits denote. -/
def number (numeral : LeadingNumeral) : Nat :=
  Nat.ofDigits 10 numeral.values.reverse

theorem isDecimalDigit_of_mem (numeral : LeadingNumeral) : ∀ c ∈ numeral.digits, isDecimalDigit c = true := by
  intro c hc
  obtain ⟨value, _, hvalue⟩ := exists_of_forall₂ numeral.digitValue? hc
  rw [isDecimalDigit, hvalue, Option.isSome_some]

theorem leadingDigits_text (numeral : LeadingNumeral) :
    MaxLength.leadingDigits numeral.text.toList = numeral.digits := by
  have hdigits := numeral.isDecimalDigit_of_mem
  have hrest : numeral.rest.takeWhile isDecimalDigit = [] := by
    cases hrest : numeral.rest with
    | nil => rfl
    | cons c rest =>
        have hc := numeral.rest_head c (by rw [hrest]; rfl)
        rw [List.takeWhile_cons_of_neg (by rw [hc]; exact Bool.false_ne_true)]
  have hstart : (numeral.digits ++ numeral.rest).dropWhile Text.isBlank = numeral.digits ++ numeral.rest := by
    obtain ⟨c, digits, hcons⟩ := List.exists_cons_of_ne_nil numeral.digits_ne_nil
    have hc := isBlank_of_isDecimalDigit (hdigits c (by rw [hcons]; exact List.mem_cons_self))
    rw [hcons, List.cons_append, List.dropWhile_cons_of_neg (by rw [hc]; exact Bool.false_ne_true)]
  rw [MaxLength.leadingDigits, text, String.toList_ofList, List.append_assoc,
    List.dropWhile_append_of_pos numeral.isBlank, hstart, List.takeWhile_append_of_pos hdigits, hrest, List.append_nil]

/-- A number as it is written out. -/
def ofNat (n : Nat) : LeadingNumeral where
  blanks := []
  digits := Nat.toDigits 10 n
  values := (Nat.toDigits 10 n).map fun c => c.toNat - '0'.toNat
  rest := []
  isBlank := by simp
  digits_ne_nil := Nat.toDigits_ne_nil
  digitValue? := by
    rw [List.forall₂_map_right_iff, List.forall₂_same]
    intro c hc
    exact digitValue?_of_isDigit (Nat.isDigit_of_mem_toDigits (by decide) (by decide) hc)
  rest_head := by simp

theorem text_ofNat (n : Nat) : (ofNat n).text = toString n := by
  rw [text, ← String.toList_inj, String.toList_ofList]
  exact (List.append_nil _).trans Nat.toList_repr.symm

theorem number_ofNat (n : Nat) : (ofNat n).number = n := by
  rw [number, ← numberOfDigits_eq_ofDigits (ofNat n).digitValue?]
  exact numberOfDigits_toDigits n

end LeadingNumeral

namespace MaxLength

theorem pos_of_size? {l : MaxLength} {size : Nat} (h : l.size? = .ok (some size)) : 0 < size := by
  have hpositive : ∀ {n : Int}, positive? n = some size → 0 < size := by
    intro n hn
    obtain ⟨hpos, rfl⟩ := exists_of_positive? hn
    omega
  cases l with
  | number n => exact hpositive (Except.ok.inj h)
  | text s =>
      rw [size?] at h
      split at h
      · cases h
      · exact hpositive (Except.ok.inj h)

theorem size?_leadingNumeral (numeral : LeadingNumeral)
    (h : numeral.digits.length ≤ OversizedNumber.maxDigits) :
    (text numeral.text).size? = .ok (if 0 < numeral.number then some numeral.number else none) := by
  rw [size?_text (by rwa [numeral.leadingDigits_text]), numeral.leadingDigits_text,
    numberOfDigits_eq_ofDigits numeral.digitValue?, LeadingNumeral.number, positive?]
  simp only [Int.natCast_pos, Int.toNat_natCast]

theorem toList_toString_negSucc (m : Nat) :
    (toString (Int.negSucc m)).toList = '-' :: (Nat.repr (m + 1)).toList := by
  change ("-" ++ Nat.repr (m + 1)).toList = _
  rw [String.toList_append]
  rfl

theorem leadingDigits_minus (cs : List Char) : leadingDigits ('-' :: cs) = [] := by
  rw [leadingDigits, List.dropWhile_cons_of_neg (by decide), List.takeWhile_cons_of_neg (by decide)]

/-- A number declares what it declares when it is written out. -/
theorem size?_text_toString {n : Int} (h : n.natAbs < 10 ^ OversizedNumber.maxDigits) :
    (text (toString n)).size? = (number n).size? := by
  cases n with
  | ofNat m =>
      have hlength : (LeadingNumeral.ofNat m).digits.length ≤ OversizedNumber.maxDigits :=
        (Nat.length_toDigits_le_iff (by decide) (by decide)).mpr h
      have hsize := size?_leadingNumeral (LeadingNumeral.ofNat m) hlength
      rw [LeadingNumeral.text_ofNat, LeadingNumeral.number_ofNat] at hsize
      calc (text (toString (Int.ofNat m))).size?
          = .ok (if 0 < m then some m else none) := hsize
        _ = (number (Int.ofNat m)).size? := by simp [size?, positive?]
  | negSucc m =>
      have hdigits : leadingDigits (toString (Int.negSucc m)).toList = [] := by
        rw [toList_toString_negSucc, leadingDigits_minus]
      have hnone : (number (Int.negSucc m)).size? = .ok none := by simp [size?, positive?]
      rw [size?_text (by rw [hdigits]; exact Nat.zero_le _), hdigits, hnone]
      rfl

end MaxLength

theorem Field.pos_of_size? {f : Field} {size : Nat} (h : f.size? = .ok (some size)) : 0 < size := by
  unfold size? at h
  cases hlength : f.maxLength with
  | none =>
      rw [hlength] at h
      cases h
  | some l =>
      rw [hlength] at h
      exact l.pos_of_size? h

/-! ### Types with a size -/

open Source

namespace Source

/-- A type written with a size. -/
def sized (name : String) (n : Int) : String :=
  name ++ "(" ++ toString n ++ ")"

variable {name front e : String}

theorem isPrefix_sized (name : String) (n : Int) : (name ++ "(").toList <+: (sized name n).toList := by
  have hparts : (sized name n).toList = (name ++ "(").toList ++ (toString n ++ ")").toList := by
    rw [sized, String.append_assoc, String.toList_append]
  rw [hparts]
  exact List.prefix_append _ _

theorem ne_sized (h : ¬ (name ++ "(").toList <+: e.toList) (n : Int) : e ≠ sized name n := by
  rintro rfl
  exact h (isPrefix_sized name n)

theorem append_ne_sized (h : ¬ front.toList <+: (name ++ "(").toList) (h' : ¬ (name ++ "(").toList <+: front.toList)
    (rest : String) (n : Int) : front ++ rest ≠ sized name n := by
  intro heq
  have hfront : front.toList <+: (sized name n).toList := by
    rw [← heq, String.toList_append]
    exact List.prefix_append _ _
  rcases List.prefix_or_prefix_of_prefix hfront (isPrefix_sized name n) with hprefix | hprefix
  · exact h hprefix
  · exact h' hprefix

end Source

/-- The types that are written with the size of a field. -/
def Source.IsSizedType (name : String) : Prop :=
  name = "sa.String" ∨ name = "sa.Unicode"

theorem Source.IsSizedType.isQualifiedElement_sized {name : String} (h : IsSizedType name) (n : Int) :
    IsQualifiedElement (sized name n) := by
  rw [sized, String.append_assoc, String.append_assoc]
  rcases h with rfl | rfl
  · exact IsQualifiedElement.append (by decide) (by decide) _
  · exact IsQualifiedElement.append (by decide) (by decide) _

namespace ScalarType

variable {f : Field} {name sizedName unsized e : String} {n : Int}

theorem pos_of_sizedExpression (hunsized : unsized ≠ sized name n)
    (h : sizedExpression f name unsized = .ok (sized name n)) : 0 < n := by
  rcases sizedExpression_eq_ok_iff.mp h with ⟨_, heq⟩ | ⟨size, text, hsize, hwrite, heq⟩
  · exact absurd heq.symm hunsized
  · rw [sized, String.append_left_inj, String.append_right_inj, OversizedNumber.eq_toString_of_write hwrite,
      Int.toString_eq_repr, Int.toString_eq_repr, Int.repr_inj] at heq
    rw [heq]
    exact Int.natCast_pos.mpr (f.pos_of_size? hsize)

theorem exists_sizedExpression_eq_append (hunsized : ∃ rest, unsized = name ++ rest)
    (h : sizedExpression f name unsized = .ok e) : ∃ rest, e = name ++ rest := by
  rcases sizedExpression_eq_ok_iff.mp h with ⟨_, rfl⟩ | ⟨size, text, _, _, rfl⟩
  · exact hunsized
  · exact ⟨"(" ++ (text ++ ")"), by simp only [String.append_assoc]⟩

/-- Only the two string types are written with the size of the field, and that is positive. -/
theorem pos_of_expression_eq_sized {type : ScalarType} (hname : IsSizedType name)
    (hbare : ∀ s ∈ type.symbol?, ¬ IsQualified s.name) (h : type.expression f = .ok (sized name n)) : 0 < n := by
  cases type with
  | string =>
      rcases hname with rfl | rfl
      · exact pos_of_sizedExpression (ne_sized (by decide) n) h
      · obtain ⟨rest, hrest⟩ := exists_sizedExpression_eq_append ⟨"", by decide⟩ h
        exact absurd hrest.symm (append_ne_sized (by decide) (by decide) rest n)
  | unicode =>
      rcases hname with rfl | rfl
      · obtain ⟨rest, hrest⟩ := exists_sizedExpression_eq_append ⟨"Text", by decide⟩ h
        exact absurd hrest.symm (append_ne_sized (by decide) (by decide) rest n)
      · exact pos_of_sizedExpression (ne_sized (by decide) n) h
  | numeric =>
      obtain ⟨rest, hrest⟩ := exists_numericExpression_eq_append h
      refine absurd hrest.symm (append_ne_sized ?_ ?_ rest n)
      · rcases hname with rfl | rfl <;> decide
      · rcases hname with rfl | rfl <;> decide
  | dialect s =>
      have hqualified := (hname.isQualifiedElement_sized n).isQualified
      rw [← Except.ok.inj h] at hqualified
      exact absurd hqualified (hbare s rfl)
  | integer | bigInteger | smallInteger | float | unsizedString | text | date | dateTime | zonedDateTime
  | time | interval | boolean | binary | json =>
      refine absurd (Except.ok.inj h) (ne_sized ?_ n)
      rcases hname with rfl | rfl <;> decide

end ScalarType

theorem Enumeration.expression_ne_sized {name : String} (hname : IsSizedType name) (declared : String)
    (e : Enumeration) (n : Int) : e.expression declared ≠ sized name n := by
  unfold expression
  simp only [String.append_assoc]
  refine append_ne_sized ?_ ?_ _ n
  · rcases hname with rfl | rfl <;> decide
  · rcases hname with rfl | rfl <;> decide

/-- A column whose type, or the type of its elements, is written with a size has a positive one. -/
theorem Field.pos_of_hasElement_sized {f : Field} {types : TypeContext} {compositeKey : Bool}
    {foreignKey : Option Endpoint} {c : Column} (hc : f.column types compositeKey foreignKey = .ok c) {name : String}
    (hname : IsSizedType name) {n : Int} (h : c.HasElement (sized name n)) : 0 < n := by
  obtain ⟨elementType, element, helement, _, hwritten, hbelongs⟩ := exists_elementType_of_column hc
  have hbare : ∀ s ∈ elementType.symbol?, ¬ IsQualified s.name := fun s hs => (hbelongs s hs).not_isQualified
  have hform : IsQualifiedElement element ∨ ¬ IsQualified element := by
    rcases ElementType.expression_cases helement with ⟨_, hqualified⟩ | ⟨s, hs, rfl⟩
    · exact Or.inl hqualified
    · exact Or.inr (hbare s hs)
  obtain rfl := hwritten.unique h hform (Or.inl (hname.isQualifiedElement_sized n))
  cases elementType with
  | enumeration declared type => exact absurd (Except.ok.inj helement) (type.expression_ne_sized hname declared n)
  | scalar type => exact ScalarType.pos_of_expression_eq_sized hname hbare helement

/-- **Declared sizes.** A number declares the same size as the text that it is written as. A text that begins with
decimal digits behind white space declares the number that these denote, unless it is zero. Whatever a field
declares, its size is positive, and so is every size that a string type is written with in a column. -/
theorem MaxLength.size_of_number_or_text :
    (∀ n : Int, n.natAbs < 10 ^ OversizedNumber.maxDigits → (text (toString n)).size? = (number n).size?) ∧
    (∀ numeral : LeadingNumeral, numeral.digits.length ≤ OversizedNumber.maxDigits →
      (text numeral.text).size? = .ok (if 0 < numeral.number then some numeral.number else none)) ∧
    (∀ (f : Field) (size : Nat), f.size? = .ok (some size) → 0 < size) ∧
    ∀ (f : Field) (types : TypeContext) (compositeKey : Bool) (foreignKey : Option Endpoint) (c : Column) (n : Int),
      f.column types compositeKey foreignKey = .ok c →
        c.HasElement (sized "sa.String" n) ∨ c.HasElement (sized "sa.Unicode" n) → 0 < n := by
  refine ⟨fun n h => size?_text_toString h, fun numeral h => size?_leadingNumeral numeral h,
    fun f _ h => f.pos_of_size? h, ?_⟩
  rintro f types compositeKey foreignKey c n hc (h | h)
  · exact Field.pos_of_hasElement_sized hc (Or.inl rfl) h
  · exact Field.pos_of_hasElement_sized hc (Or.inr rfl) h

namespace Gallery

/-- A wide blank, and then digits of two scripts. -/
def signs : LeadingNumeral where
  blanks := ['\u2003']
  digits := ['٣', '2']
  values := [3, 2]
  rest := " signs".toList
  isBlank := List.all_eq_true.mp (by decide)
  digits_ne_nil := by decide
  digitValue? := .cons (by decide +kernel) (.cons (by decide +kernel) .nil)
  rest_head := by
    rintro c hc
    obtain rfl := Option.some.inj hc
    decide +kernel

/-- Zero in the digits of two scripts. The raised digit behind them is no decimal digit. -/
def zeros : LeadingNumeral where
  blanks := []
  digits := ['0', '٠']
  values := [0, 0]
  rest := ['²']
  isBlank := by simp
  digits_ne_nil := by decide
  digitValue? := .cons (by decide +kernel) (.cons (by decide +kernel) .nil)
  rest_head := by
    rintro c hc
    obtain rfl := Option.some.inj hc
    decide +kernel

def caption : Field :=
  { id := "c", name := "caption", type := ⟨"nvarchar[]", none⟩, maxLength := some (.text signs.text) }

theorem sizes_of_captions :
    (MaxLength.text "-64").size? = .ok none ∧
    (MaxLength.text "64").size? = .ok (some 64) ∧
    (MaxLength.text signs.text).size? = .ok (some 32) ∧
    (MaxLength.text zeros.text).size? = .ok none ∧
    ∃ c, caption.column ⟨.sqlServer, []⟩ false none = .ok c ∧ c.HasElement (sized "sa.Unicode" 32) ∧
      (0 : Int) < 32 := by
  obtain ⟨hsame, hnumeral, _, hpositive⟩ := MaxLength.size_of_number_or_text
  have hcolumn : caption.column ⟨.sqlServer, []⟩ false none =
      .ok ⟨"caption", .list .text, ["sa.ARRAY(sa.Unicode(32))"], [], [], none⟩ := by
    decide +kernel
  have hwritten : "sa.ARRAY(sa.Unicode(32))" = arrayOf (sized "sa.Unicode" 32) := by decide +kernel
  have hminus : toString (-64 : Int) = "-64" := by decide +kernel
  refine ⟨hminus ▸ hsame (-64) (by decide +kernel), hsame 64 (by decide +kernel), ?_, ?_, ?_⟩
  · exact hnumeral signs (by decide)
  · exact hnumeral zeros (by decide)
  · have helement : Column.HasElement ⟨"caption", .list .text, ["sa.ARRAY(sa.Unicode(32))"], [], [], none⟩
        (sized "sa.Unicode" 32) := by
      rw [hwritten]
      exact Or.inr rfl
    exact ⟨_, hcolumn, helement, hpositive caption _ false none _ 32 hcolumn (Or.inr helement)⟩

end Gallery

end SchemaScribe
