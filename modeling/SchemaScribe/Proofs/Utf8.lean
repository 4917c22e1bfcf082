import Mathlib.Tactic.Common
import SchemaScribe.Text.Utf8

/-!
# Which octets are UTF-8

Octets can be decoded exactly if they are what some characters are encoded as, and then they give these
characters. It makes no difference whether they arrive as a whole or in pieces: where a piece ends within a
character, the octets of it are carried over to the next one.
-/

namespace SchemaScribe.Text

/-! ### One character -/

section Sequences

variable {a b d e : UInt8} {c : Char}

theorem isContinuation_iff : isContinuation b = true ↔ 0x80 ≤ b.toNat ∧ b.toNat < 0xc0 := by
  unfold isContinuation
  simp only [Bool.and_eq_true, decide_eq_true_eq, UInt8.le_iff_toNat_le]
  change 0x80 ≤ b.toNat ∧ b.toNat ≤ 0xbf ↔ _
  omega

theorem isSecondOctet_iff : isSecondOctet a b = true ↔
    isContinuation b = true ∧ (a.toNat = 0xe0 → 0xa0 ≤ b.toNat) ∧ (a.toNat = 0xed → b.toNat < 0xa0) ∧
      (a.toNat = 0xf0 → 0x90 ≤ b.toNat) ∧ (a.toNat = 0xf4 → b.toNat < 0x90) := by
  unfold isSecondOctet
  simp only [isContinuation_iff, ← UInt8.toNat_inj]
  split_ifs <;> simp_all [isContinuation_iff, UInt8.le_iff_toNat_le] <;> omega

/-- The code points of characters leave out the surrogates. -/
theorem toNat_valid (c : Char) : c.toNat < 0xd800 ∨ 0xdfff < c.toNat ∧ c.toNat < 0x110000 :=
  c.valid

theorem toNat_ofNat {n : Nat} (h : n < 0xd800 ∨ 0xdfff < n ∧ n < 0x110000) : (Char.ofNat n).toNat = n := by
  rw [Char.ofNat, dif_pos h]
  rfl

theorem utf8EncodeChar_eq (c : Char) : String.utf8EncodeChar c =
    if c.toNat ≤ 0x7f then [.ofNat c.toNat]
    else if c.toNat ≤ 0x7ff then [.ofNat (c.toNat / 64 % 32 + 0xc0), .ofNat (c.toNat % 64 + 0x80)]
    else if c.toNat ≤ 0xffff then
      [.ofNat (c.toNat / 4096 % 16 + 0xe0), .ofNat (c.toNat / 64 % 64 + 0x80), .ofNat (c.toNat % 64 + 0x80)]
    else
      [.ofNat (c.toNat / 262144 % 8 + 0xf0), .ofNat (c.toNat / 4096 % 64 + 0x80),
        .ofNat (c.toNat / 64 % 64 + 0x80), .ofNat (c.toNat % 64 + 0x80)] :=
  rfl

theorem utf8EncodeChar_eq_one_iff : String.utf8EncodeChar c = [a] ↔ a.toNat < 0x80 ∧ c.toNat = a.toNat := by
  have hvalid := toNat_valid c
  have ha := a.toNat_lt
  rw [utf8EncodeChar_eq]
  split_ifs <;> simp [← UInt8.toNat_inj] <;> omega

theorem utf8EncodeChar_eq_two_iff : String.utf8EncodeChar c = [a, b] ↔
    (0xc2 ≤ a.toNat ∧ a.toNat < 0xe0) ∧ isContinuation b = true ∧
      c.toNat = 64 * (a.toNat - 0xc0) + b.toNat % 64 := by
  have hvalid := toNat_valid c
  have ha := a.toNat_lt
  have hb := b.toNat_lt
  rw [utf8EncodeChar_eq, isContinuation_iff]
  split_ifs <;> simp [← UInt8.toNat_inj] <;> omega

theorem utf8EncodeChar_eq_three_iff : String.utf8EncodeChar c = [a, b, d] ↔
    (0xe0 ≤ a.toNat ∧ a.toNat < 0xf0) ∧ isSecondOctet a b = true ∧ isContinuation d = true ∧
      c.toNat = 64 * (64 * (a.toNat - 0xe0) + b.toNat % 64) + d.toNat % 64 := by
  have hvalid := toNat_valid c
  have ha := a.toNat_lt
  have hb := b.toNat_lt
  have hd := d.toNat_lt
  rw [utf8EncodeChar_eq, isSecondOctet_iff, isContinuation_iff, isContinuation_iff]
  split_ifs with hone htwo hthree
  · exact iff_of_false (by simp) (by omega)
  · exact iff_of_false (by simp) (by omega)
  · simp only [List.cons.injEq, and_true, ← UInt8.toNat_inj, UInt8.toNat_ofNat']
    constructor
    · rintro ⟨hfirst, hsecond, hthird⟩
      have hsplit : c.toNat = 64 * (64 * (c.toNat / 4096) + c.toNat / 64 % 64) + c.toNat % 64 := by omega
      have ha : a.toNat = c.toNat / 4096 + 0xe0 := by omega
      have hb : b.toNat = c.toNat / 64 % 64 + 0x80 := by omega
      have hd : d.toNat = c.toNat % 64 + 0x80 := by omega
      refine ⟨?_, ?_, ?_, ?_⟩ <;> omega
    · rintro ⟨hlead, ⟨hb, hsecond⟩, hd, hcode⟩
      refine ⟨?_, ?_, ?_⟩ <;> omega
  · exact iff_of_false (by simp) (by omega)

theorem utf8EncodeChar_eq_four_iff : String.utf8EncodeChar c = [a, b, d, e] ↔
    (0xf0 ≤ a.toNat ∧ a.toNat < 0xf5) ∧ isSecondOctet a b = true ∧ isContinuation d = true ∧
      isContinuation e = true ∧
      c.toNat = 64 * (64 * (64 * (a.toNat - 0xf0) + b.toNat % 64) + d.toNat % 64) + e.toNat % 64 := by
  have hvalid := toNat_valid c
  have ha := a.toNat_lt
  have hb := b.toNat_lt
  have hd := d.toNat_lt
  have he := e.toNat_lt
  rw [utf8EncodeChar_eq, isSecondOctet_iff, isContinuation_iff, isContinuation_iff, isContinuation_iff]
  split_ifs with hone htwo hthree
  · exact iff_of_false (by simp) (by omega)
  · exact iff_of_false (by simp) (by omega)
  · exact iff_of_false (by simp) (by omega)
  · simp only [List.cons.injEq, and_true, ← UInt8.toNat_inj, UInt8.toNat_ofNat']
    constructor
    · rintro ⟨hfirst, hsecond, hthird, hfourth⟩
      have hsplit : c.toNat = 64 * (64 * (64 * (c.toNat / 262144) + c.toNat / 4096 % 64) + c.toNat / 64 % 64) +
          c.toNat % 64 := by omega
      have ha : a.toNat = c.toNat / 262144 + 0xf0 := by omega
      have hb : b.toNat = c.toNat / 4096 % 64 + 0x80 := by omega
      have hd : d.toNat = c.toNat / 64 % 64 + 0x80 := by omega
      have he : e.toNat = c.toNat % 64 + 0x80 := by omega
      refine ⟨?_, ?_, ?_, ?_, ?_⟩ <;> omega
    · rintro ⟨hlead, ⟨hb, hsecond⟩, hd, he, hcode⟩
      refine ⟨?_, ?_, ?_, ?_⟩ <;> omega

/-- The octets of a character, by their number. -/
theorem utf8EncodeChar_cases (c : Char) :
    (∃ a, String.utf8EncodeChar c = [a]) ∨ (∃ a b, String.utf8EncodeChar c = [a, b]) ∨
      (∃ a b d, String.utf8EncodeChar c = [a, b, d]) ∨ ∃ a b d e, String.utf8EncodeChar c = [a, b, d, e] := by
  rw [utf8EncodeChar_eq]
  split_ifs
  · exact Or.inl ⟨_, rfl⟩
  · exact Or.inr (Or.inl ⟨_, _, rfl⟩)
  · exact Or.inr (Or.inr (Or.inl ⟨_, _, _, rfl⟩))
  · exact Or.inr (Or.inr (Or.inr ⟨_, _, _, _, rfl⟩))

theorem charOfOctets_eq {leadBits : Nat} {rest : List UInt8}
    (h : c.toNat = rest.foldl (fun n octet => 64 * n + octet.toNat % 64) leadBits) :
    charOfOctets leadBits rest = c := by
  rw [charOfOctets, ← h, Char.ofNat_toNat]

/-! The number of octets is told by the first one. -/

section Lead

variable {rest : List UInt8}

theorem decodeChar_of_one (ha : a.toNat < 0x80) : decodeChar (a :: rest) = .ok (Char.ofNat a.toNat, 1) := by
  simp only [decodeChar, UInt8.lt_iff_toNat_lt, UInt8.reduceToNat]
  rw [if_pos (by omega)]

theorem decodeChar_of_two (ha : 0xc2 ≤ a.toNat ∧ a.toNat < 0xe0) :
    decodeChar (a :: rest) =
      match rest with
      | [] => .error ([a], .unexpectedEnd)
      | b :: _ =>
        if isContinuation b then .ok (charOfOctets (a.toNat - 0xc0) [b], 2)
        else .error ([a], .invalidContinuation) := by
  simp only [decodeChar, UInt8.lt_iff_toNat_lt, UInt8.reduceToNat]
  rw [if_neg (by omega), if_neg (by omega)]
  exact if_pos (by omega)

theorem decodeChar_of_three (ha : 0xe0 ≤ a.toNat ∧ a.toNat < 0xf0) :
    decodeChar (a :: rest) =
      match rest with
      | [] => .error ([a], .unexpectedEnd)
      | b :: rest =>
        if !isSecondOctet a b then .error ([a], .invalidContinuation)
        else
          match rest with
          | [] => .error ([a, b], .unexpectedEnd)
          | c :: _ =>
            if isContinuation c then .ok (charOfOctets (a.toNat - 0xe0) [b, c], 3)
            else .error ([a, b], .invalidContinuation) := by
  simp only [decodeChar, UInt8.lt_iff_toNat_lt, UInt8.reduceToNat]
  rw [if_neg (by omega), if_neg (by omega), if_neg (by omega)]
  exact if_pos (by omega)

theorem decodeChar_of_four (ha : 0xf0 ≤ a.toNat ∧ a.toNat < 0xf5) :
    decodeChar (a :: rest) =
      match rest with
      | [] => .error ([a], .unexpectedEnd)
      | b :: rest =>
        if !isSecondOctet a b then .error ([a], .invalidContinuation)
        else
          match rest with
          | [] => .error ([a, b], .unexpectedEnd)
          | c :: rest =>
            if !isContinuation c then .error ([a, b], .invalidContinuation)
            else
              match rest with
              | [] => .error ([a, b, c], .unexpectedEnd)
              | d :: _ =>
                if isContinuation d then .ok (charOfOctets (a.toNat - 0xf0) [b, c, d], 4)
                else .error ([a, b, c], .invalidContinuation) := by
  simp only [decodeChar, UInt8.lt_iff_toNat_lt, UInt8.reduceToNat]
  rw [if_neg (by omega), if_neg (by omega), if_neg (by omega), if_neg (by omega)]
  exact if_pos (by omega)

theorem decodeChar_of_invalid (ha : 0x80 ≤ a.toNat ∧ a.toNat < 0xc2 ∨ 0xf5 ≤ a.toNat) :
    decodeChar (a :: rest) = .error ([a], .invalidStart) := by
  simp only [decodeChar, UInt8.lt_iff_toNat_lt, UInt8.reduceToNat]
  split_ifs <;> first | rfl | omega

end Lead

theorem decodeChar_utf8EncodeChar_append (c : Char) (rest : List UInt8) :
    decodeChar (String.utf8EncodeChar c ++ rest) = .ok (c, (String.utf8EncodeChar c).length) := by
  rcases utf8EncodeChar_cases c with ⟨a, h⟩ | ⟨a, b, h⟩ | ⟨a, b, d, h⟩ | ⟨a, b, d, e, h⟩
  · obtain ⟨ha, hc⟩ := utf8EncodeChar_eq_one_iff.mp h
    rw [h, List.singleton_append, decodeChar_of_one ha, ← hc, Char.ofNat_toNat]
    rfl
  · obtain ⟨ha, hb, hc⟩ := utf8EncodeChar_eq_two_iff.mp h
    have hchar : charOfOctets (a.toNat - 0xc0) [b] = c := charOfOctets_eq hc
    rw [h, List.cons_append, decodeChar_of_two ha]
    simp [hb, hchar]
  · obtain ⟨ha, hb, hd, hc⟩ := utf8EncodeChar_eq_three_iff.mp h
    have hchar : charOfOctets (a.toNat - 0xe0) [b, d] = c := charOfOctets_eq hc
    rw [h, List.cons_append, decodeChar_of_three ha]
    simp [hb, hd, hchar]
  · obtain ⟨ha, hb, hd, he, hc⟩ := utf8EncodeChar_eq_four_iff.mp h
    have hchar : charOfOctets (a.toNat - 0xf0) [b, d, e] = c := charOfOctets_eq hc
    rw [h, List.cons_append, decodeChar_of_four ha]
    simp [hb, hd, he, hchar]

theorem toNat_charOfOctets {leadBits n : Nat} {rest : List UInt8}
    (hn : n < 0xd800 ∨ 0xdfff < n ∧ n < 0x110000)
    (h : rest.foldl (fun n octet => 64 * n + octet.toNat % 64) leadBits = n) :
    (charOfOctets leadBits rest).toNat = n := by
  rw [charOfOctets, h, toNat_ofNat hn]

section Decoded

variable {rest : List UInt8} {width : Nat}

theorem exists_of_decodeChar_of_two (ha : 0xc2 ≤ a.toNat ∧ a.toNat < 0xe0)
    (h : decodeChar (a :: rest) = .ok (c, width)) :
    ∃ b back, rest = b :: back ∧ String.utf8EncodeChar c = [a, b] ∧ width = 2 := by
  rw [decodeChar_of_two ha] at h
  rcases rest with _ | ⟨b, back⟩
  · cases h
  simp only at h
  split_ifs at h with hb
  obtain ⟨rfl, rfl⟩ := Prod.mk.inj (Except.ok.inj h)
  refine ⟨b, back, rfl, utf8EncodeChar_eq_two_iff.mpr ⟨ha, hb, toNat_charOfOctets ?_ rfl⟩, rfl⟩
  omega

theorem exists_of_decodeChar_of_three (ha : 0xe0 ≤ a.toNat ∧ a.toNat < 0xf0)
    (h : decodeChar (a :: rest) = .ok (c, width)) :
    ∃ b d back, rest = b :: d :: back ∧ String.utf8EncodeChar c = [a, b, d] ∧ width = 3 := by
  rw [decodeChar_of_three ha] at h
  rcases rest with _ | ⟨b, _ | ⟨d, back⟩⟩
  · cases h
  · simp only at h
    split_ifs at h
  simp only at h
  split_ifs at h with hb hd
  rw [Bool.not_eq_true', Bool.not_eq_false] at hb
  obtain ⟨rfl, rfl⟩ := Prod.mk.inj (Except.ok.inj h)
  refine ⟨b, d, back, rfl, utf8EncodeChar_eq_three_iff.mpr ⟨ha, hb, hd, toNat_charOfOctets ?_ rfl⟩, rfl⟩
  obtain ⟨hcontinuation, hfirst, hsurrogate, _⟩ := isSecondOctet_iff.mp hb
  rw [isContinuation_iff] at hcontinuation
  omega

theorem exists_of_decodeChar_of_four (ha : 0xf0 ≤ a.toNat ∧ a.toNat < 0xf5)
    (h : decodeChar (a :: rest) = .ok (c, width)) :
    ∃ b d e back, rest = b :: d :: e :: back ∧ String.utf8EncodeChar c = [a, b, d, e] ∧ width = 4 := by
  rw [decodeChar_of_four ha] at h
  rcases rest with _ | ⟨b, _ | ⟨d, _ | ⟨e, back⟩⟩⟩
  · cases h
  · simp only at h
    split_ifs at h
  · simp only at h
    split_ifs at h
  simp only at h
  split_ifs at h with hb hd he
  rw [Bool.not_eq_true', Bool.not_eq_false] at hb hd
  obtain ⟨rfl, rfl⟩ := Prod.mk.inj (Except.ok.inj h)
  refine ⟨b, d, e, back, rfl, utf8EncodeChar_eq_four_iff.mpr ⟨ha, hb, hd, he, toNat_charOfOctets ?_ rfl⟩, rfl⟩
  obtain ⟨hcontinuation, _, _, hfirst, hlast⟩ := isSecondOctet_iff.mp hb
  rw [isContinuation_iff] at hcontinuation
  omega

/-- What is decoded is the character that the octets at the front are the encoding of. -/
theorem exists_of_decodeChar {octets : List UInt8} (h : decodeChar octets = .ok (c, width)) :
    ∃ rest, octets = String.utf8EncodeChar c ++ rest ∧ width = (String.utf8EncodeChar c).length := by
  rcases octets with _ | ⟨a, rest⟩
  · cases h
  by_cases hone : a.toNat < 0x80
  · rw [decodeChar_of_one hone] at h
    obtain ⟨rfl, rfl⟩ := Prod.mk.inj (Except.ok.inj h)
    have hencode : String.utf8EncodeChar (Char.ofNat a.toNat) = [a] :=
      utf8EncodeChar_eq_one_iff.mpr ⟨hone, toNat_ofNat (by omega)⟩
    rw [hencode]
    exact ⟨rest, rfl, rfl⟩
  by_cases htwo : 0xc2 ≤ a.toNat ∧ a.toNat < 0xe0
  · obtain ⟨b, back, rfl, hencode, rfl⟩ := exists_of_decodeChar_of_two htwo h
    rw [hencode]
    exact ⟨back, rfl, rfl⟩
  by_cases hthree : 0xe0 ≤ a.toNat ∧ a.toNat < 0xf0
  · obtain ⟨b, d, back, rfl, hencode, rfl⟩ := exists_of_decodeChar_of_three hthree h
    rw [hencode]
    exact ⟨back, rfl, rfl⟩
  by_cases hfour : 0xf0 ≤ a.toNat ∧ a.toNat < 0xf5
  · obtain ⟨b, d, e, back, rfl, hencode, rfl⟩ := exists_of_decodeChar_of_four hfour h
    rw [hencode]
    exact ⟨back, rfl, rfl⟩
  · rw [decodeChar_of_invalid (by omega)] at h
    cases h

end Decoded

/-- Octets that stop within a character give no other fault than that. -/
theorem decodeChar_of_cut {front back : List UInt8} (hfront : front ≠ []) (hback : back ≠ [])
    (h : front ++ back = String.utf8EncodeChar c) :
    ∃ octets, decodeChar front = .error (octets, .unexpectedEnd) := by
  obtain ⟨a, front, rfl⟩ := List.exists_cons_of_ne_nil hfront
  obtain ⟨z, back, rfl⟩ := List.exists_cons_of_ne_nil hback
  rcases utf8EncodeChar_cases c with ⟨a', hc⟩ | ⟨a', b, hc⟩ | ⟨a', b, d, hc⟩ | ⟨a', b, d, e, hc⟩
  · rw [hc] at h
    simp at h
  · rw [hc, List.cons_append, List.cons.injEq] at h
    obtain ⟨rfl, h⟩ := h
    obtain ⟨ha, _⟩ := utf8EncodeChar_eq_two_iff.mp hc
    rcases front with _ | ⟨b', front⟩
    · exact ⟨[a], decodeChar_of_two ha⟩
    · simp at h
  · rw [hc, List.cons_append, List.cons.injEq] at h
    obtain ⟨rfl, h⟩ := h
    obtain ⟨ha, hb, _⟩ := utf8EncodeChar_eq_three_iff.mp hc
    rw [decodeChar_of_three ha]
    rcases front with _ | ⟨b', _ | ⟨d', front⟩⟩
    · exact ⟨[a], rfl⟩
    · obtain ⟨rfl, _⟩ := List.cons.inj h
      exact ⟨[a, b'], by simp [hb]⟩
    · simp at h
  · rw [hc, List.cons_append, List.cons.injEq] at h
    obtain ⟨rfl, h⟩ := h
    obtain ⟨ha, hb, hd, _⟩ := utf8EncodeChar_eq_four_iff.mp hc
    rw [decodeChar_of_four ha]
    rcases front with _ | ⟨b', _ | ⟨d', _ | ⟨e', front⟩⟩⟩
    · exact ⟨[a], rfl⟩
    · obtain ⟨rfl, _⟩ := List.cons.inj h
      exact ⟨[a, b'], by simp [hb]⟩
    · simp only [List.cons_append, List.cons.injEq] at h
      obtain ⟨rfl, rfl, _⟩ := h
      exact ⟨[a, b', d'], by simp [hb, hd]⟩
    · simp at h

end Sequences

/-! ### Many characters -/

/-- The octets of characters. -/
def encodeUtf8 (cs : List Char) : List UInt8 :=
  cs.flatMap String.utf8EncodeChar

theorem encodeUtf8_cons (c : Char) (cs : List Char) :
    encodeUtf8 (c :: cs) = String.utf8EncodeChar c ++ encodeUtf8 cs :=
  List.flatMap_cons

theorem encodeUtf8_append (cs ds : List Char) : encodeUtf8 (cs ++ ds) = encodeUtf8 cs ++ encodeUtf8 ds :=
  List.flatMap_append

theorem decodeUtf8From_skip (offset : Nat) (passed rest : List UInt8) :
    decodeUtf8From offset passed.length (passed ++ rest) = decodeUtf8From (offset + passed.length) 0 rest := by
  induction passed generalizing offset with
  | nil => rfl
  | cons octet passed ih =>
      rw [List.length_cons, List.cons_append, decodeUtf8From, ih, Nat.add_right_comm, Nat.add_assoc]

theorem utf8EncodeChar_ne_nil (c : Char) : String.utf8EncodeChar c ≠ [] := by
  rw [utf8EncodeChar_eq]
  split_ifs <;> simp

theorem decodeUtf8From_utf8EncodeChar_append (offset : Nat) (c : Char) (rest : List UInt8) :
    decodeUtf8From offset 0 (String.utf8EncodeChar c ++ rest) =
      (decodeUtf8From (offset + (String.utf8EncodeChar c).length) 0 rest).map (c :: ·) := by
  have hdecode := decodeChar_utf8EncodeChar_append c rest
  obtain ⟨a, tail, htail⟩ := List.exists_cons_of_ne_nil (utf8EncodeChar_ne_nil c)
  rw [htail, List.cons_append] at hdecode ⊢
  rw [decodeUtf8From, hdecode]
  simp only [List.length_cons, Nat.add_sub_cancel]
  rw [decodeUtf8From_skip, Nat.add_assoc, Nat.add_comm 1]

theorem decodeUtf8From_encodeUtf8_append (offset : Nat) (cs : List Char) (rest : List UInt8) :
    decodeUtf8From offset 0 (encodeUtf8 cs ++ rest) =
      (decodeUtf8From (offset + (encodeUtf8 cs).length) 0 rest).map (cs ++ ·) := by
  induction cs generalizing offset with
  | nil => cases h : decodeUtf8From offset 0 rest <;> simp [encodeUtf8, h, Except.map]
  | cons c cs ih =>
      rw [encodeUtf8_cons, List.append_assoc, decodeUtf8From_utf8EncodeChar_append, ih, List.length_append,
        Nat.add_assoc]
      cases decodeUtf8From (offset + (_ + _)) 0 rest <;> rfl

theorem eq_encodeUtf8_of_decodeUtf8From {offset : Nat} {octets : List UInt8} {cs : List Char}
    (h : decodeUtf8From offset 0 octets = .ok cs) : octets = encodeUtf8 cs := by
  -- Each character takes its octets off the front, so what is left is shorter.
  induction hlength : octets.length using Nat.strongRecOn generalizing offset octets cs with
  | ind length ih =>
      rcases octets with _ | ⟨octet, tail⟩
      · obtain rfl := Except.ok.inj h
        rfl
      cases hchar : decodeChar (octet :: tail) with
      | error refusal =>
          rw [decodeUtf8From, hchar] at h
          cases h
      | ok found =>
          obtain ⟨rest, hrest, _⟩ := exists_of_decodeChar hchar
          rw [hrest, decodeUtf8From_utf8EncodeChar_append] at h
          have hshorter : rest.length < length := by
            have hpos := List.length_pos_iff.mpr (utf8EncodeChar_ne_nil found.1)
            rw [← hlength, hrest, List.length_append]
            omega
          cases hdecode : decodeUtf8From (offset + (String.utf8EncodeChar found.1).length) 0 rest with
          | error fault =>
              rw [hdecode] at h
              cases h
          | ok ds =>
              rw [hdecode] at h
              obtain rfl := Except.ok.inj h
              rw [hrest, ih rest.length hshorter hdecode rfl, encodeUtf8_cons]

/-- Octets can be decoded exactly if they are UTF-8. -/
theorem decodeUtf8_eq_ok_iff {octets : List UInt8} {cs : List Char} :
    decodeUtf8 octets = .ok cs ↔ octets = encodeUtf8 cs := by
  constructor
  · exact eq_encodeUtf8_of_decodeUtf8From
  · rintro rfl
    have h := decodeUtf8From_encodeUtf8_append 0 cs []
    rw [List.append_nil] at h
    rw [decodeUtf8, h]
    simp [decodeUtf8From, Except.map]

/-! ### Pieces -/

/-- Where UTF-8 is cut, the part in front consists of whole characters and at most one that is not finished. -/
theorem exists_of_append_eq_encodeUtf8 {front back : List UInt8} {cs : List Char}
    (h : front ++ back = encodeUtf8 cs) :
    ∃ complete later rest, cs = complete ++ later ∧ front = encodeUtf8 complete ++ rest ∧
      rest ++ back = encodeUtf8 later ∧
      (rest = [] ∨ ∃ octets, decodeChar rest = .error (octets, .unexpectedEnd)) := by
  induction cs generalizing front with
  | nil =>
      obtain ⟨rfl, rfl⟩ := List.append_eq_nil_iff.mp h
      exact ⟨[], [], [], rfl, rfl, rfl, Or.inl rfl⟩
  | cons c cs ih =>
      rw [encodeUtf8_cons] at h
      rcases List.append_eq_append_iff.mp h with ⟨cut, hchar, hback⟩ | ⟨beyond, hfront, hrest⟩
      · by_cases hcut : cut = []
        · subst hcut
          refine ⟨[c], cs, [], rfl, ?_, hback, Or.inl rfl⟩
          rw [encodeUtf8_cons, hchar]
          simp [encodeUtf8]
        · refine ⟨[], c :: cs, front, rfl, rfl, by rw [encodeUtf8_cons, h], ?_⟩
          by_cases hfront : front = []
          · exact Or.inl hfront
          · exact Or.inr (decodeChar_of_cut hfront hcut hchar.symm)
      · obtain ⟨complete, later, rest, rfl, hbeyond, hlater, hend⟩ := ih hrest.symm
        refine ⟨c :: complete, later, rest, rfl, ?_, hlater, hend⟩
        rw [hfront, hbeyond, encodeUtf8_cons, List.append_assoc]

theorem decodeComplete_of_cut {complete : List Char} {rest : List UInt8}
    (h : rest = [] ∨ ∃ octets, decodeChar rest = .error (octets, .unexpectedEnd)) :
    decodeComplete (encodeUtf8 complete ++ rest) = .ok (complete, rest) := by
  have hcomplete : decodeUtf8 (encodeUtf8 complete) = .ok complete := decodeUtf8_eq_ok_iff.mpr rfl
  rcases rest with _ | ⟨octet, tail⟩
  · rw [List.append_nil, decodeComplete, hcomplete]
  · obtain ⟨octets, hcut⟩ := h.resolve_left (List.cons_ne_nil octet tail)
    have hfault : decodeUtf8 (encodeUtf8 complete ++ octet :: tail) =
        .error ⟨(encodeUtf8 complete).length, octets, .unexpectedEnd⟩ := by
      rw [decodeUtf8, decodeUtf8From_encodeUtf8_append, decodeUtf8From, hcut, Nat.zero_add]
      rfl
    rw [decodeComplete, hfault]
    simp [DecodeFault.isIncomplete, hcomplete, Except.map]

theorem eq_of_decodeComplete {octets rest : List UInt8} {complete : List Char}
    (h : decodeComplete octets = .ok (complete, rest)) : octets = encodeUtf8 complete ++ rest := by
  unfold decodeComplete at h
  cases hdecode : decodeUtf8 octets with
  | ok cs =>
      rw [hdecode] at h
      obtain ⟨rfl, rfl⟩ := Prod.mk.inj (Except.ok.inj h)
      rw [List.append_nil, decodeUtf8_eq_ok_iff.mp hdecode]
  | error fault =>
      simp only [hdecode] at h
      split_ifs at h
      cases htake : decodeUtf8 (octets.take fault.offset) with
      | error fault =>
          rw [htake] at h
          cases h
      | ok cs =>
          rw [htake] at h
          obtain ⟨rfl, rfl⟩ := Prod.mk.inj (Except.ok.inj h)
          rw [← decodeUtf8_eq_ok_iff.mp htake, List.take_append_drop]

theorem decodePieces_eq_ok_iff {pending : List UInt8} {pieces : List (List UInt8)} {cs : List Char} :
    decodePieces pending pieces = .ok cs ↔ pending ++ pieces.flatten = encodeUtf8 cs := by
  induction pieces generalizing pending cs with
  | nil => rw [decodePieces, decodeUtf8_eq_ok_iff, List.flatten_nil, List.append_nil]
  | cons piece pieces ih =>
      rw [decodePieces, List.flatten_cons, ← List.append_assoc]
      constructor
      · intro h
        cases hcomplete : decodeComplete (pending ++ piece) with
        | error fault =>
            rw [hcomplete] at h
            cases h
        | ok found =>
            obtain ⟨complete, rest⟩ := found
            simp only [hcomplete] at h
            cases hlater : decodePieces rest pieces with
            | error fault =>
                rw [hlater] at h
                cases h
            | ok later =>
                rw [hlater] at h
                obtain rfl := Except.ok.inj h
                rw [eq_of_decodeComplete hcomplete, List.append_assoc, ih.mp hlater, encodeUtf8_append]
      · intro h
        obtain ⟨complete, later, rest, rfl, hfront, hlater, hend⟩ := exists_of_append_eq_encodeUtf8 h
        rw [hfront, decodeComplete_of_cut hend]
        simp only [ih.mpr hlater, Except.map]

theorem flatten_cutInto {α : Type} {size : Nat} (hsize : 0 < size) (xs : List α) :
    (cutInto size xs).flatten = xs := by
  have hpieces : ∀ count,
      ((List.range count).map fun i => (xs.drop (i * size)).take size).flatten = xs.take (count * size) := by
    intro count
    induction count with
    | zero => simp
    | succ count ih =>
        rw [List.range_succ, List.map_append, List.flatten_append, ih, List.map_singleton,
          List.flatten_singleton, Nat.succ_mul, List.take_add]
  rw [cutInto, hpieces, List.take_of_length_le]
  have hcount := Nat.lt_mul_div_succ (xs.length + size - 1) hsize
  rw [Nat.mul_succ, Nat.mul_comm] at hcount
  omega

/-- Octets that arrive in pieces give the same characters as those that arrive as a whole. -/
theorem decodePieces_cutInto_eq_ok_iff {size : Nat} (hsize : 0 < size) {octets : List UInt8}
    {cs : List Char} : decodePieces [] (cutInto size octets) = .ok cs ↔ octets = encodeUtf8 cs := by
  rw [decodePieces_eq_ok_iff, flatten_cutInto hsize, List.nil_append]

end SchemaScribe.Text
