import SchemaScribe.Proofs.CodePoints
import SchemaScribe.Proofs.Words

/-!
# Full case mappings

Outside ASCII a character has an expansion, or a run moves it, or it stays as it is. The letter k apart, no
lower-case form ends in an ASCII character unless it is that of an ASCII character. So a text ends in such a
character in lower case only if it does as it stands, up to letter case. Capital forms consist of characters that
are capital themselves.
-/

namespace SchemaScribe.Text

theorem CaseRun.image_mono (run : CaseRun) {code code' : Nat} (h : code ≤ code') :
    run.image code ≤ run.image code' := by
  unfold image
  omega

theorem CaseRun.covers_iff {run : CaseRun} {code : Nat} :
    run.covers code = true ↔ (run.first ≤ code ∧ code ≤ run.last) ∧ (code - run.first) % run.step = 0 := by
  simp only [covers, Bool.and_eq_true, decide_eq_true_eq, beq_iff_eq]

/-- The images of the code points that the run covers are characters. -/
def CaseRun.MovesToCharacters (run : CaseRun) : Prop :=
  run.image run.last < 0xd800 ∨ 0xdfff < run.image run.first ∧ run.image run.last < 0x110000

instance (run : CaseRun) : Decidable run.MovesToCharacters :=
  inferInstanceAs (Decidable (_ ∨ _))

theorem CaseRun.MovesToCharacters.toNat_ofNat {run : CaseRun} (h : run.MovesToCharacters) {code : Nat}
    (hcovers : run.covers code = true) : (Char.ofNat (run.image code)).toNat = run.image code := by
  obtain ⟨⟨hfirst, hlast⟩, _⟩ := covers_iff.mp hcovers
  have hlower := run.image_mono hfirst
  have hupper := run.image_mono hlast
  apply toNat_ofNat_of_isValidChar
  unfold MovesToCharacters at h
  unfold Nat.isValidChar
  omega

theorem mappedBy_cases (expansions : List (Nat × List Nat)) (runs : List CaseRun) (c : Char) :
    (∃ codes, (c.toNat, codes) ∈ expansions ∧ mappedBy expansions runs c = codes.map Char.ofNat) ∨
    (∃ run ∈ runs, run.covers c.toNat = true ∧
      mappedBy expansions runs c = [Char.ofNat (run.image c.toNat)]) ∨
    mappedBy expansions runs c = [c] := by
  unfold mappedBy
  cases hexpansion : expansions.lookup c.toNat with
  | some codes =>
      obtain ⟨earlier, later, rfl, _⟩ := List.lookup_eq_some_iff.mp hexpansion
      exact Or.inl ⟨codes, List.mem_append_right _ List.mem_cons_self, rfl⟩
  | none =>
      cases hrun : runs.find? (·.covers c.toNat) with
      | none => exact Or.inr (Or.inr rfl)
      | some run =>
          have hcovers : run.covers c.toNat = true := by
            simpa using List.find?_some hrun
          exact Or.inr (Or.inl ⟨run, List.mem_of_find?_eq_some hrun, hcovers, rfl⟩)

/-! ### ASCII -/

theorem toNat_toLower (c : Char) :
    c.toLower.toNat = if 0x41 ≤ c.toNat ∧ c.toNat ≤ 0x5a then c.toNat + 0x20 else c.toNat := by
  unfold Char.toLower
  by_cases h : 0x41 ≤ c.toNat ∧ c.toNat ≤ 0x5a
  · have hlast : c.val.toNat ≤ 0x5a := h.2
    rw [if_pos h, dif_pos ⟨h.1, h.2⟩]
    change (c.val + 0x20).toNat = c.val.toNat + 0x20
    rw [UInt32.toNat_add]
    change (c.val.toNat + 0x20) % 2 ^ 32 = c.val.toNat + 0x20
    omega
  · rw [if_neg h, dif_neg]
    rintro ⟨hfirst, hlast⟩
    exact h ⟨hfirst, hlast⟩

theorem toNat_toUpper (c : Char) :
    c.toUpper.toNat = if 0x61 ≤ c.toNat ∧ c.toNat ≤ 0x7a then c.toNat - 0x20 else c.toNat := by
  unfold Char.toUpper
  by_cases h : 0x61 ≤ c.toNat ∧ c.toNat ≤ 0x7a
  · have hfirst : 0x61 ≤ c.val.toNat := h.1
    have hlast : c.val.toNat ≤ 0x7a := h.2
    rw [if_pos h, dif_pos ⟨h.1, h.2⟩]
    change (c.val + ('A'.val - 'a'.val)).toNat = c.val.toNat - 0x20
    rw [UInt32.toNat_add]
    -- The distance between the letters is negative, so it wraps around.
    change (c.val.toNat + 0xffffffe0) % 2 ^ 32 = c.val.toNat - 0x20
    omega
  · rw [if_neg h, dif_neg]
    rintro ⟨hfirst, hlast⟩
    exact h ⟨hfirst, hlast⟩

/-! ### Lower case -/

section LowerCase

variable {c d : Char}

theorem kelvinRun_or_of_mem_lowerRuns :
    ∀ run ∈ lowerRuns,
      run = ⟨0x212a, 0x212a, 1, -8383⟩ ∨ 0x80 ≤ run.image run.first ∧ run.MovesToCharacters := by
  decide +kernel

theorem toLower_eq_self (h : 0x80 ≤ c.toNat) : c.toLower = c := by
  rw [← Char.toNat_inj, toNat_toLower, if_neg]
  omega

/-- Of all characters outside ASCII, only the Kelvin sign has an ASCII character at the end of its lower-case
form. -/
theorem getLast?_lowerChar_iff (hascii : d.toNat < 0x80) (hk : d ≠ 'k') :
    (lowerChar c).getLast? = some d ↔ c.toLower = d := by
  unfold lowerChar
  by_cases hc : c.toNat < 0x80
  · rw [if_pos hc, List.getLast?_singleton, Option.some.injEq]
  · have hne : c ≠ d := by
      rintro rfl
      exact hc hascii
    rw [if_neg hc, toLower_eq_self (Nat.le_of_not_lt hc), iff_false_right hne]
    rcases mappedBy_cases lowerExpansions lowerRuns c with
      ⟨codes, hcodes, hmapped⟩ | ⟨run, hrun, hcovers, hmapped⟩ | hmapped
    · rw [hmapped]
      obtain ⟨_, rfl⟩ := Prod.mk.inj (List.mem_singleton.mp hcodes)
      rintro hlast
      obtain rfl := Option.some.inj hlast
      exact absurd hascii (by decide)
    · rw [hmapped, List.getLast?_singleton, Option.some.injEq]
      obtain ⟨⟨hfirst, hlast⟩, _⟩ := CaseRun.covers_iff.mp hcovers
      rcases kelvinRun_or_of_mem_lowerRuns run hrun with rfl | ⟨habove, hmoves⟩
      · obtain hkelvin : c.toNat = 0x212a := Nat.le_antisymm hlast hfirst
        rw [hkelvin]
        exact hk.symm
      · have hlower := run.image_mono hfirst
        rintro rfl
        rw [hmoves.toNat_ofNat hcovers] at hascii
        omega
    · rw [hmapped, List.getLast?_singleton, Option.some.injEq]
      exact hne

theorem toList_lower (s : String) : (lower s).toList = lowerChars s.toList :=
  String.toList_ofList

/-- Only the dotted capital i becomes two characters in lower case. -/
theorem lowerChar_cases (c : Char) : (∃ d, lowerChar c = [d]) ∨ lowerChar c = ['i', '\u0307'] := by
  unfold lowerChar
  split
  · exact Or.inl ⟨_, rfl⟩
  · rcases mappedBy_cases lowerExpansions lowerRuns c with
      ⟨codes, hcodes, hmapped⟩ | ⟨run, _, _, hmapped⟩ | hmapped
    · obtain ⟨_, rfl⟩ := Prod.mk.inj (List.mem_singleton.mp hcodes)
      exact Or.inr hmapped
    · exact Or.inl ⟨_, hmapped⟩
    · exact Or.inl ⟨_, hmapped⟩

theorem lowerChar_ne_nil (c : Char) : lowerChar c ≠ [] := by
  rcases lowerChar_cases c with ⟨d, h⟩ | h
  · rw [h]
    exact List.cons_ne_nil _ _
  · rw [h]
    exact List.cons_ne_nil _ _

/-- A text is lower-cased by its first character and then the others, and the form of the capital sigma has no
ASCII character either. -/
theorem exists_lowerAfter_cons (before : List Char) (c : Char) (after : List Char) :
    ∃ image, lowerAfter before (c :: after) = image ++ lowerAfter (c :: before) after ∧ image ≠ [] ∧
      ∀ d : Char, d.toNat < 0x80 → d ≠ 'k' → (image.getLast? = some d ↔ c.toLower = d) := by
  refine ⟨_, rfl, ?_⟩
  by_cases hsigma : c = 'Σ'
  · rw [if_pos hsigma]
    refine ⟨List.cons_ne_nil _ _, ?_⟩
    intro d hascii _
    have hne : ∀ {e : Char}, 0x80 ≤ e.toNat → e ≠ d := by
      rintro e habove rfl
      exact absurd hascii (Nat.not_lt_of_le habove)
    rw [hsigma, List.getLast?_singleton, Option.some.injEq]
    refine iff_of_false ?_ (hne (by decide))
    split
    · exact hne (by decide)
    · exact hne (by decide)
  · rw [if_neg hsigma]
    exact ⟨lowerChar_ne_nil c, fun d hascii hk => getLast?_lowerChar_iff hascii hk⟩

theorem lowerAfter_ne_nil {before cs : List Char} (h : cs ≠ []) : lowerAfter before cs ≠ [] := by
  cases cs with
  | nil => exact absurd rfl h
  | cons c after =>
      obtain ⟨image, himage, hne, _⟩ := exists_lowerAfter_cons before c after
      rw [himage]
      exact List.append_ne_nil_of_left_ne_nil hne _

theorem getLast?_lowerAfter_iff (hascii : d.toNat < 0x80) (hk : d ≠ 'k') {before cs : List Char} :
    (lowerAfter before cs).getLast? = some d ↔ ∃ c, cs.getLast? = some c ∧ c.toLower = d := by
  induction cs generalizing before with
  | nil => simp [lowerAfter]
  | cons c after ih =>
      obtain ⟨image, himage, _, hlast⟩ := exists_lowerAfter_cons before c after
      rw [himage]
      cases after with
      | nil =>
          rw [lowerAfter, List.append_nil, hlast d hascii hk]
          simp
      | cons e after =>
          rw [List.getLast?_append_of_ne_nil _ (lowerAfter_ne_nil (List.cons_ne_nil _ _)), ih,
            List.getLast?_cons_cons]

/-- A text ends in `s` in lower case exactly if it ends in `s` or `S`. -/
theorem s_isSuffix_lowerChars_iff {cs : List Char} :
    ['s'] <:+ lowerChars cs ↔ cs.getLast? = some 's' ∨ cs.getLast? = some 'S' := by
  have hs : ∀ {c : Char}, c.toLower = 's' ↔ c = 's' ∨ c = 'S' := by
    intro c
    simp only [← Char.toNat_inj, toNat_toLower, Char.reduceToNat]
    split <;> omega
  rw [List.singleton_suffix_iff_getLast?_eq_some, lowerChars, getLast?_lowerAfter_iff (by decide) (by decide)]
  simp only [hs, and_or_left, exists_or, exists_eq_right]

/-- A bracket that is last in a lower-cased text is last in the text. -/
theorem exists_of_lowerChars_eq_concat {cs front : List Char} (hd : d = '[' ∨ d = ']')
    (h : lowerChars cs = front ++ [d]) : ∃ inner, cs = inner ++ [d] ∧ lowerChars inner = front := by
  have hbracket : (d.toNat = 0x5b ∨ d.toNat = 0x5d) ∧ startsCased [d] = false ∧
      ∀ before, lowerAfter before [d] = [d] := by
    rcases hd with rfl | rfl
    · exact ⟨by decide, by decide +kernel, fun _ => rfl⟩
    · exact ⟨by decide, by decide +kernel, fun _ => rfl⟩
  obtain ⟨hcode, hcased, hfixed⟩ := hbracket
  have hk : d ≠ 'k' := by
    rintro rfl
    revert hcode
    decide
  have hlast : (lowerChars cs).getLast? = some d := by
    rw [h, List.getLast?_concat]
  obtain ⟨c, hc, hlower⟩ := (getLast?_lowerAfter_iff (by omega) hk).mp hlast
  obtain rfl : c = d := by
    rw [← Char.toNat_inj, toNat_toLower] at hlower
    rw [← Char.toNat_inj]
    split at hlower <;> omega
  obtain ⟨inner, rfl⟩ := List.getLast?_eq_some_iff.mp hc
  rw [lowerChars_append_of_fixed hcased hfixed] at h
  exact ⟨inner, rfl, List.append_cancel_right h⟩

/-- A text ends in brackets exactly if it does in lower case. -/
theorem brackets_isSuffix_lowerChars_iff {cs : List Char} :
    "[]".toList <:+ lowerChars cs ↔ "[]".toList <:+ cs := by
  have hbrackets : ∀ front : List Char, front ++ "[]".toList = front ++ ['['] ++ [']'] := by
    intro front
    rw [List.append_assoc]
    rfl
  constructor
  · rintro ⟨front, hfront⟩
    rw [hbrackets] at hfront
    obtain ⟨inner, rfl, hinner⟩ := exists_of_lowerChars_eq_concat (Or.inr rfl) hfront.symm
    obtain ⟨element, rfl, _⟩ := exists_of_lowerChars_eq_concat (Or.inl rfl) hinner
    exact ⟨element, hbrackets element⟩
  · rintro ⟨front, rfl⟩
    rw [lowerChars_append_of_fixed (by decide +kernel) (fun _ => rfl)]
    exact List.suffix_append _ _

end LowerCase

/-! ### Capital forms -/

section CapitalForms

variable {c : Char}

/-- The code points that a run covers. -/
def CaseRun.codes (run : CaseRun) : List Nat :=
  (List.range ((run.last - run.first) / run.step + 1)).map fun place => run.first + run.step * place

theorem CaseRun.mem_codes_of_covers {run : CaseRun} {code : Nat} (h : run.covers code = true) : code ∈ run.codes := by
  obtain ⟨⟨hfirst, hlast⟩, hstep⟩ := covers_iff.mp h
  have hplace : (code - run.first) / run.step ≤ (run.last - run.first) / run.step :=
    Nat.div_le_div_right (Nat.sub_le_sub_right hlast _)
  refine List.mem_map.mpr ⟨_, List.mem_range.mpr (Nat.lt_succ_of_le hplace), ?_⟩
  rw [Nat.mul_div_cancel' (Nat.dvd_of_mod_eq_zero hstep), Nat.add_sub_cancel' hfirst]

/-- How the letters of ASCII move into their capital form. -/
def asciiRun : CaseRun :=
  ⟨0x61, 0x7a, 1, -0x20⟩

/-- The code points of the characters that have another capital form. -/
def smallCodes : List Nat :=
  (asciiRun :: upperRuns).flatMap CaseRun.codes ++ upperExpansions.map Prod.fst

/-- The code points of the characters that make up those capital forms. -/
def capitalCodes : List Nat :=
  (asciiRun :: upperRuns).flatMap (fun run => run.codes.map run.image) ++ upperExpansions.flatMap Prod.snd

theorem areDisjoint_capitalCodes_smallCodes : areDisjoint capitalCodes smallCodes = true := by
  decide +kernel

theorem movesToCharacters_of_mem : ∀ run ∈ asciiRun :: upperRuns, run.MovesToCharacters := by
  decide +kernel

theorem expansion_ne_nil_and_lt :
    ∀ expansion ∈ upperExpansions, expansion.2 ≠ [] ∧ ∀ code ∈ expansion.2, code < 0xd800 := by
  decide +kernel

theorem mem_codes_of_run {run : CaseRun} (hrun : run ∈ asciiRun :: upperRuns) (h : run.covers c.toNat = true) :
    c.toNat ∈ smallCodes ∧ (Char.ofNat (run.image c.toNat)).toNat ∈ capitalCodes := by
  have hcode := CaseRun.mem_codes_of_covers h
  rw [(movesToCharacters_of_mem run hrun).toNat_ofNat h]
  constructor
  · exact List.mem_append_left _ (List.mem_flatMap.mpr ⟨run, hrun, hcode⟩)
  · exact List.mem_append_left _ (List.mem_flatMap.mpr ⟨run, hrun, List.mem_map_of_mem hcode⟩)

theorem mem_codes_of_expansion {codes : List Nat} (h : (c.toNat, codes) ∈ upperExpansions) :
    c.toNat ∈ smallCodes ∧ ∀ d ∈ codes.map Char.ofNat, d.toNat ∈ capitalCodes := by
  constructor
  · exact List.mem_append_right _ (List.mem_map.mpr ⟨_, h, rfl⟩)
  · intro d hd
    obtain ⟨code, hcode, rfl⟩ := List.mem_map.mp hd
    rw [toNat_ofNat_of_isValidChar (Or.inl ((expansion_ne_nil_and_lt _ h).2 code hcode))]
    exact List.mem_append_right _ (List.mem_flatMap.mpr ⟨_, h, hcode⟩)

theorem toUpper_cases (c : Char) :
    asciiRun.covers c.toNat = true ∧ c.toUpper = Char.ofNat (asciiRun.image c.toNat) ∨ c.toUpper = c := by
  have htoNat := toNat_toUpper c
  split at htoNat
  case isTrue h =>
    have himage : asciiRun.image c.toNat = c.toUpper.toNat := by
      simp only [CaseRun.image, asciiRun]
      omega
    refine Or.inl ⟨CaseRun.covers_iff.mpr ⟨h, Nat.mod_one _⟩, ?_⟩
    rw [himage, Char.ofNat_toNat]
  case isFalse => exact Or.inr (Char.toNat_inj.mp htoNat)

/-- A character becomes capital characters, or stays as it is. -/
theorem upperChar_cases (c : Char) :
    (c.toNat ∈ smallCodes ∧ upperChar c ≠ [] ∧ ∀ d ∈ upperChar c, d.toNat ∈ capitalCodes) ∨ upperChar c = [c] := by
  have hmoved : ∀ run ∈ asciiRun :: upperRuns, run.covers c.toNat = true →
      upperChar c = [Char.ofNat (run.image c.toNat)] →
      c.toNat ∈ smallCodes ∧ upperChar c ≠ [] ∧ ∀ d ∈ upperChar c, d.toNat ∈ capitalCodes := by
    intro run hrun hcovers hupper
    obtain ⟨hsmall, hcapital⟩ := mem_codes_of_run hrun hcovers
    rw [hupper]
    exact ⟨hsmall, List.cons_ne_nil _ _, List.forall_mem_singleton.mpr hcapital⟩
  by_cases hascii : c.toNat < 0x80
  · have hupper : upperChar c = [c.toUpper] := if_pos hascii
    rcases toUpper_cases c with ⟨hcovers, hc⟩ | hc
    · exact Or.inl (hmoved asciiRun List.mem_cons_self hcovers (by rw [hupper, hc]))
    · exact Or.inr (by rw [hupper, hc])
  · have hupper : upperChar c = mappedBy upperExpansions upperRuns c := if_neg hascii
    rcases mappedBy_cases upperExpansions upperRuns c with
      ⟨codes, hcodes, hmapped⟩ | ⟨run, hrun, hcovers, hmapped⟩ | hmapped
    · obtain ⟨hsmall, hcapital⟩ := mem_codes_of_expansion hcodes
      rw [hupper, hmapped]
      exact Or.inl ⟨hsmall, mt List.map_eq_nil_iff.mp (expansion_ne_nil_and_lt _ hcodes).1, hcapital⟩
    · exact Or.inl (hmoved run (List.mem_cons_of_mem _ hrun) hcovers (hupper.trans hmapped))
    · exact Or.inr (hupper.trans hmapped)

theorem upperChar_eq_self (h : c.toNat ∈ capitalCodes) : upperChar c = [c] := by
  rcases upperChar_cases c with ⟨hsmall, _⟩ | hself
  · exact absurd hsmall (not_mem_of_areDisjoint areDisjoint_capitalCodes_smallCodes h)
  · exact hself

/-- A capital form begins with a character that is its own capital form. -/
theorem exists_capital_upperChar (c : Char) : ∃ d rest, upperChar c = d :: rest ∧ upperChar d = [d] := by
  rcases upperChar_cases c with ⟨_, hne, hcapital⟩ | hself
  · obtain ⟨d, rest, hupper⟩ := List.exists_cons_of_ne_nil hne
    refine ⟨d, rest, hupper, upperChar_eq_self (hcapital d ?_)⟩
    rw [hupper]
    exact List.mem_cons_self
  · exact ⟨c, [], hself, hself⟩

end CapitalForms

end SchemaScribe.Text
