import Mathlib.Tactic.SplitIfs
import SchemaScribe.Document.Json

/-!
# Reading double-quoted literals

A literal of generated source is read in two steps. Its closing quote is the first one that no backslash
escapes; then the escapes in the body are decoded. Values are lists of code points, since an escape can
denote half of a surrogate pair. Source has no null character, so a literal that holds one is not read. A text
between quotes is read as itself exactly if it is verbatim: it has no quote, no line end and no null character,
and none of its backslashes begins an escape.
-/

namespace SchemaScribe.StringLiteral

/-! ### Escapes -/

/-- The escapes of one character, with their code points. -/
def simpleEscapes : List (Char × Nat) :=
  [('\\', 0x5c), ('\'', 0x27), ('"', 0x22), ('a', 0x07), ('b', 0x08), ('f', 0x0c), ('n', 0x0a), ('r', 0x0d),
    ('t', 0x09), ('v', 0x0b)]

/-- The escapes by a code point, with the number of their hexadecimal digits. -/
def codeWidths : List (Char × Nat) :=
  [('x', 2), ('u', 4), ('U', 8)]

def octalDigits : List Char := "01234567".toList

/-- The characters that begin an escape behind a backslash. -/
def escapeOpeners : List Char :=
  ['\n', '\r', 'N'] ++ octalDigits ++ codeWidths.map Prod.fst ++ simpleEscapes.map Prod.fst

def maxCode : Nat := 0x10ffff

def octalNumber (digits : List Char) : Nat :=
  digits.foldl (fun n c => 8 * n + (c.toNat - '0'.toNat)) 0

def codeEscape? (width : Nat) (cs : List Char) : Option (List Nat × Nat) :=
  ((Document.Json.hexNumber? width cs).filter (· ≤ maxCode)).map fun code => ([code], width + 1)

/-- The escape of a character by its name, which stands between braces. -/
def namedEscape? (named : List Char → Option Nat) (cs : List Char) : Option (List Nat × Nat) :=
  let name := (cs.drop 1).takeWhile (· ≠ '\x7d')
  if cs.head? = some '\x7b' && cs[name.length + 1]? = some '\x7d' then
    (named name).map fun code => ([code], name.length + 3)
  else none

/-- The code points for a backslash in front of `cs`, and how many characters of `cs` belong to it. A line
end behind a backslash denotes nothing, and a backslash that begins no escape denotes itself. The names of
characters are given by `named`. -/
def escape? (named : List Char → Option Nat) : List Char → Option (List Nat × Nat)
  | [] => none
  | c :: cs =>
    if c = '\n' then some ([], 1)
    else if c = '\r' then some ([], if cs.head? = some '\n' then 2 else 1)
    else if c = 'N' then namedEscape? named cs
    else if c ∈ octalDigits then
      let digits := c :: (cs.take 2).takeWhile (· ∈ octalDigits)
      some ([octalNumber digits], digits.length)
    else
      match codeWidths.lookup c, simpleEscapes.lookup c with
      | some width, _ => codeEscape? width cs
      | none, some code => some ([code], 1)
      | none, none => some (['\\'.toNat], 0)

/-! ### Literals -/

/-- The number of characters that `c` escapes in the text behind it: one behind a backslash, or two for a
carriage return with its line feed. -/
def escapedCount (c : Char) (cs : List Char) : Nat :=
  if c = '\\' then if cs.take 2 = ['\r', '\n'] then 2 else 1 else 0

/-- The body of a literal and the text behind its closing quote. `skip` counts characters that are escaped. -/
def closeFrom : Nat → List Char → Option (List Char × List Char)
  | _, [] => none
  | skip + 1, c :: cs => (closeFrom skip cs).map (Prod.map (c :: ·) id)
  | 0, c :: cs =>
    if c = '"' then some ([], cs)
    else if c = '\n' || c = '\r' then none
    else (closeFrom (escapedCount c cs) cs).map (Prod.map (c :: ·) id)

/-- The code points that a body denotes. `skip` counts characters that belong to the last escape. -/
def decodeFrom (named : List Char → Option Nat) : Nat → List Char → Option (List Nat)
  | _, [] => some []
  | skip + 1, _ :: cs => decodeFrom named skip cs
  | 0, c :: cs =>
    if c = '\\' then
      match escape? named cs with
      | none => none
      | some (codes, skip) => (decodeFrom named skip cs).map (codes ++ ·)
    else (decodeFrom named 0 cs).map (c.toNat :: ·)

def close? (cs : List Char) : Option (List Char × List Char) :=
  closeFrom 0 cs

def decode? (named : List Char → Option Nat) (body : List Char) : Option (List Nat) :=
  decodeFrom named 0 body

/-- The value of the literal that starts here, and the text behind it. Three quotes start no literal on one
line, and a body with a null character is no source. -/
def read? (named : List Char → Option Nat) : List Char → Option (List Nat × List Char)
  | '"' :: cs =>
    if cs.take 2 = ['"', '"'] then none
    else
      match close? cs with
      | none => none
      | some (body, back) =>
        if '\x00' ∈ body then none else (decode? named body).map fun codes => (codes, back)
  | _ => none

example : read? (fun _ => none) "\"a\\tb\\q\\\"\" # c".toList =
    some ([0x61, 0x09, 0x62, 0x5c, 0x71, 0x22], " # c".toList) := by decide

/-- What can stand between the quotes of a literal as it is. -/
structure IsVerbatim (text : List Char) : Prop where
  quote : '"' ∉ text
  lineFeed : '\n' ∉ text
  carriageReturn : '\r' ∉ text
  null : '\x00' ∉ text
  backslash : ∀ front back, text = front ++ '\\' :: back → ∃ c rest, back = c :: rest ∧ c ∉ escapeOpeners

variable {named : List Char → Option Nat} {c : Char} {cs text body back : List Char} {codes : List Nat}
  {skip : Nat}

/-! ### Backslashes -/

theorem lookup_eq_none_iff {α : Type} {entries : List (Char × α)} :
    entries.lookup c = none ↔ c ∉ entries.map Prod.fst := by
  rw [List.lookup_eq_none_iff, List.mem_map]
  simp only [bne_iff_ne, ne_eq, not_exists, not_and]
  exact forall₂_congr fun _ _ => ⟨fun h heq => h heq.symm, fun h heq => h heq.symm⟩

theorem escape?_of_not_mem (hc : c ∉ escapeOpeners) : escape? named (c :: cs) = some ([0x5c], 0) := by
  simp only [escapeOpeners, List.mem_append, not_or, ← lookup_eq_none_iff] at hc
  obtain ⟨⟨⟨hfirst, hoctal⟩, hcode⟩, hsimple⟩ := hc
  simp only [List.mem_cons, List.not_mem_nil, or_false, not_or] at hfirst
  simp only [escape?, hfirst, hoctal, hcode, hsimple, if_false]
  rfl

/-- An escape denotes less than it takes: one code point at most, for one character behind the backslash at
least. -/
theorem length_of_escape? (hc : c ∈ escapeOpeners) (h : escape? named (c :: cs) = some (codes, skip)) :
    codes.length ≤ 1 ∧ 1 ≤ skip := by
  have hone : ∀ {code? : Option Nat} {n : Nat},
      code?.map (fun code => ([code], n + 1)) = some (codes, skip) → codes.length ≤ 1 ∧ 1 ≤ skip := by
    intro code? n h
    obtain ⟨code, _, heq⟩ := Option.map_eq_some_iff.mp h
    obtain ⟨rfl, rfl⟩ := Prod.mk.inj heq
    exact ⟨Nat.le_refl 1, Nat.le_add_left 1 n⟩
  simp only [escape?] at h
  by_cases hfeed : c = '\n'
  · rw [if_pos hfeed] at h
    obtain ⟨rfl, rfl⟩ := Prod.mk.inj (Option.some.inj h)
    exact ⟨Nat.zero_le 1, Nat.le_refl 1⟩
  rw [if_neg hfeed] at h
  by_cases hreturn : c = '\r'
  · rw [if_pos hreturn] at h
    obtain ⟨rfl, rfl⟩ := Prod.mk.inj (Option.some.inj h)
    refine ⟨Nat.zero_le 1, ?_⟩
    split <;> omega
  rw [if_neg hreturn] at h
  by_cases hname : c = 'N'
  · rw [if_pos hname, namedEscape?] at h
    split at h
    · exact hone h
    · cases h
  rw [if_neg hname] at h
  by_cases hoctal : c ∈ octalDigits
  · rw [if_pos hoctal] at h
    exact @hone (some _) _ h
  rw [if_neg hoctal] at h
  split at h
  · exact hone h
  · exact @hone (some _) 0 h
  · rename_i hcode hsimple
    rw [lookup_eq_none_iff] at hcode hsimple
    simp [escapeOpeners, hfeed, hreturn, hname, hoctal, hcode, hsimple] at hc

/-- A backslash begins no escape and denotes itself, or it makes the rest of a body denote less than there are
characters. -/
theorem escape?_cases (h : escape? named cs = some (codes, skip)) :
    (∃ c rest, cs = c :: rest ∧ c ∉ escapeOpeners ∧ codes = [0x5c] ∧ skip = 0) ∨
      codes.length + (cs.length - skip) ≤ cs.length := by
  cases cs with
  | nil => cases h
  | cons c rest =>
      by_cases hc : c ∈ escapeOpeners
      · obtain ⟨hcodes, hskip⟩ := length_of_escape? hc h
        rw [List.length_cons]
        omega
      · rw [escape?_of_not_mem hc] at h
        obtain ⟨rfl, rfl⟩ := Prod.mk.inj (Option.some.inj h)
        exact Or.inl ⟨c, rest, rfl, hc, rfl, rfl⟩

/-! ### Bodies -/

theorem eq_append_of_closeFrom (h : closeFrom skip cs = some (body, back)) : cs = body ++ '"' :: back := by
  induction cs generalizing skip body with
  | nil => simp [closeFrom] at h
  | cons c cs ih =>
      have hcons : ∀ {skip'}, (closeFrom skip' cs).map (Prod.map (c :: ·) id) = some (body, back) →
          c :: cs = body ++ '"' :: back := by
        intro skip' h
        obtain ⟨⟨rest, back'⟩, hrest, heq⟩ := Option.map_eq_some_iff.mp h
        obtain ⟨rfl, rfl⟩ := Prod.mk.inj heq
        rw [ih hrest]
        rfl
      cases skip with
      | succ skip => exact hcons h
      | zero =>
          unfold closeFrom at h
          split_ifs at h with hquote
          · obtain ⟨rfl, rfl⟩ := Prod.mk.inj (Option.some.inj h)
            rw [hquote]
            rfl
          · exact hcons h

theorem exists_of_decodeFrom_backslash (h : decodeFrom named 0 ('\\' :: cs) = some codes) :
    ∃ first skip rest, escape? named cs = some (first, skip) ∧ decodeFrom named skip cs = some rest ∧
      codes = first ++ rest := by
  rw [decodeFrom, if_pos rfl] at h
  cases hescape : escape? named cs with
  | none => simp [hescape] at h
  | some escaped =>
      simp only [hescape] at h
      obtain ⟨rest, hrest, rfl⟩ := Option.map_eq_some_iff.mp h
      exact ⟨escaped.1, escaped.2, rest, rfl, hrest, rfl⟩

theorem decodeFrom_cons (hc : c ≠ '\\') :
    decodeFrom named 0 (c :: cs) = (decodeFrom named 0 cs).map (c.toNat :: ·) := by
  rw [decodeFrom, if_neg hc]

theorem length_le_of_decodeFrom (h : decodeFrom named skip cs = some codes) :
    codes.length ≤ cs.length - skip := by
  induction cs generalizing skip codes with
  | nil =>
      unfold decodeFrom at h
      obtain rfl := Option.some.inj h
      exact Nat.zero_le _
  | cons c cs ih =>
      rw [List.length_cons]
      cases skip with
      | succ skip =>
          have hlength := ih h
          omega
      | zero =>
          by_cases hc : c = '\\'
          · subst hc
            obtain ⟨first, skip, rest, hescape, hrest, rfl⟩ := exists_of_decodeFrom_backslash h
            have hlength := ih hrest
            rw [List.length_append]
            rcases escape?_cases hescape with ⟨_, _, _, _, rfl, rfl⟩ | hshort
            · rw [List.length_singleton]
              omega
            · omega
          · rw [decodeFrom_cons hc] at h
            obtain ⟨rest, hrest, rfl⟩ := Option.map_eq_some_iff.mp h
            have hlength := ih hrest
            rw [List.length_cons]
            omega

theorem closeFrom_cons (hquote : c ≠ '"') (hfeed : c ≠ '\n') (hreturn : c ≠ '\r') (hbackslash : c ≠ '\\') :
    closeFrom 0 (c :: cs) = (closeFrom 0 cs).map (Prod.map (c :: ·) id) := by
  rw [closeFrom, if_neg hquote, if_neg (by simp [hfeed, hreturn]), escapedCount, if_neg hbackslash]

theorem closeFrom_escaped (hreturn : c ≠ '\r') :
    closeFrom 0 ('\\' :: c :: cs) = (closeFrom 0 cs).map (Prod.map (['\\', c] ++ ·) id) := by
  have hcount : escapedCount '\\' (c :: cs) = 1 := by
    rw [escapedCount, if_pos rfl, if_neg (by simp [hreturn])]
  rw [closeFrom, if_neg (by decide), if_neg (by decide), hcount, closeFrom, Option.map_map]
  rfl

/-- A character that begins no escape is read alike whether it is escaped or not. -/
theorem closeFrom_backslash (hc : c ∉ escapeOpeners) :
    closeFrom 0 ('\\' :: c :: cs) = (closeFrom 0 (c :: cs)).map (Prod.map ('\\' :: ·) id) := by
  have hne : ∀ d ∈ escapeOpeners, c ≠ d := fun d hd heq => hc (heq ▸ hd)
  have hreturn : c ≠ '\r' := hne '\r' (by decide)
  rw [closeFrom_cons (hne '"' (by decide)) (hne '\n' (by decide)) hreturn (hne '\\' (by decide)),
    closeFrom_escaped hreturn, Option.map_map]
  rfl

/-! ### Verbatim texts -/

theorem isVerbatim_nil : IsVerbatim [] :=
  ⟨List.not_mem_nil, List.not_mem_nil, List.not_mem_nil, List.not_mem_nil, by simp⟩

theorem isVerbatim_cons_iff :
    IsVerbatim (c :: cs) ↔ c ≠ '"' ∧ c ≠ '\n' ∧ c ≠ '\r' ∧ c ≠ '\x00' ∧
      (c = '\\' → ∃ d rest, cs = d :: rest ∧ d ∉ escapeOpeners) ∧ IsVerbatim cs := by
  constructor
  · rintro ⟨hquote, hfeed, hreturn, hnull, hbackslash⟩
    rw [List.mem_cons, not_or] at hquote hfeed hreturn hnull
    refine ⟨Ne.symm hquote.1, Ne.symm hfeed.1, Ne.symm hreturn.1, Ne.symm hnull.1, ?_,
      hquote.2, hfeed.2, hreturn.2, hnull.2, ?_⟩
    · rintro rfl
      exact hbackslash [] cs rfl
    · intro front back heq
      exact hbackslash (c :: front) back (by rw [heq]; rfl)
  · rintro ⟨hquote, hfeed, hreturn, hnull, hbackslash, hcs⟩
    refine ⟨?_, ?_, ?_, ?_, ?_⟩
    · exact List.not_mem_cons_of_ne_of_not_mem (Ne.symm hquote) hcs.quote
    · exact List.not_mem_cons_of_ne_of_not_mem (Ne.symm hfeed) hcs.lineFeed
    · exact List.not_mem_cons_of_ne_of_not_mem (Ne.symm hreturn) hcs.carriageReturn
    · exact List.not_mem_cons_of_ne_of_not_mem (Ne.symm hnull) hcs.null
    · intro front back heq
      cases front with
      | nil =>
          obtain ⟨rfl, rfl⟩ := List.cons.inj heq
          exact hbackslash rfl
      | cons d front =>
          obtain ⟨_, htail⟩ := List.cons.inj heq
          exact hcs.backslash front back htail

theorem decode?_of_isVerbatim (h : IsVerbatim text) : decode? named text = some (text.map Char.toNat) := by
  unfold decode?
  induction text with
  | nil => rfl
  | cons c cs ih =>
      obtain ⟨_, _, _, _, hbackslash, hcs⟩ := isVerbatim_cons_iff.mp h
      by_cases hc : c = '\\'
      · obtain ⟨d, rest, rfl, hd⟩ := hbackslash hc
        subst hc
        rw [decodeFrom, if_pos rfl, escape?_of_not_mem hd]
        simp only [ih hcs]
        rfl
      · rw [decodeFrom_cons hc, ih hcs]
        rfl

theorem close?_of_isVerbatim (h : IsVerbatim text) (back : List Char) :
    close? (text ++ '"' :: back) = some (text, back) := by
  unfold close?
  induction text with
  | nil => rfl
  | cons c cs ih =>
      obtain ⟨hquote, hfeed, hreturn, _, hbackslash, hcs⟩ := isVerbatim_cons_iff.mp h
      rw [List.cons_append]
      by_cases hc : c = '\\'
      · obtain ⟨d, rest, rfl, hd⟩ := hbackslash hc
        rw [hc, List.cons_append, closeFrom_backslash hd, ← List.cons_append, ih hcs]
        rfl
      · rw [closeFrom_cons hquote hfeed hreturn hc, ih hcs]
        rfl

theorem isVerbatim_of_close?_of_decode? (hclose : close? (text ++ '"' :: back) = some (text, back))
    (hdecode : decode? named text = some (text.map Char.toNat)) (hnull : '\x00' ∉ text) : IsVerbatim text := by
  unfold close? at hclose
  unfold decode? at hdecode
  induction text with
  | nil => exact isVerbatim_nil
  | cons c cs ih =>
      have htail : ∀ {found : Option (List Char × List Char)},
          found.map (Prod.map (c :: ·) id) = some (c :: cs, back) → found = some (cs, back) := by
        rintro found h
        obtain ⟨⟨body, back'⟩, rfl, heq⟩ := Option.map_eq_some_iff.mp h
        simpa using heq
      have hends : c ≠ '"' ∧ c ≠ '\n' ∧ c ≠ '\r' := by
        refine ⟨?_, ?_, ?_⟩ <;> rintro rfl <;> simp [closeFrom] at hclose
      obtain ⟨hquote, hfeed, hreturn⟩ := hends
      rw [List.mem_cons, not_or] at hnull
      rw [List.cons_append] at hclose
      rw [isVerbatim_cons_iff]
      by_cases hc : c = '\\'
      · subst hc
        obtain ⟨first, skip, rest, hescape, hrest, hcodes⟩ := exists_of_decodeFrom_backslash hdecode
        rcases escape?_cases hescape with ⟨d, after, rfl, hd, rfl, rfl⟩ | hshort
        · rw [List.cons_append, closeFrom_backslash hd] at hclose
          obtain ⟨_, rfl⟩ := List.cons.inj hcodes
          exact ⟨hquote, hfeed, hreturn, Ne.symm hnull.1, fun _ => ⟨d, after, rfl, hd⟩,
            ih (htail hclose) hrest hnull.2⟩
        · -- An escape would make the value shorter than the text.
          have hlength := length_le_of_decodeFrom hrest
          have heq := congrArg List.length hcodes
          rw [List.length_map, List.length_cons, List.length_append] at heq
          omega
      · rw [closeFrom_cons hquote hfeed hreturn hc] at hclose
        rw [decodeFrom_cons hc] at hdecode
        obtain ⟨rest, hrest, hcodes⟩ := Option.map_eq_some_iff.mp hdecode
        obtain ⟨_, rfl⟩ := List.cons.inj hcodes
        exact ⟨hquote, hfeed, hreturn, Ne.symm hnull.1, fun heq => absurd heq hc,
          ih (htail hclose) hrest hnull.2⟩

/-! ### Literals -/

theorem take_two_ne_of_close? (hclose : close? (body ++ '"' :: back) = some (body, back))
    (hback : back.head? ≠ some '"') : (body ++ '"' :: back).take 2 ≠ ['"', '"'] := by
  intro htake
  cases body with
  | nil =>
      cases back with
      | nil => simp at htake
      | cons c back =>
          apply hback
          simpa using htake
  | cons c body =>
      have hc : c = '"' := by
        rw [List.cons_append, List.take_succ_cons] at htake
        exact (List.cons.inj htake).1
      simp [hc, close?, closeFrom] at hclose

theorem read?_eq_some_iff (hback : back.head? ≠ some '"') :
    read? named ('"' :: body ++ '"' :: back) = some (codes, back) ↔
      close? (body ++ '"' :: back) = some (body, back) ∧ '\x00' ∉ body ∧ decode? named body = some codes := by
  rw [List.cons_append, read?]
  constructor
  · intro h
    split_ifs at h
    cases hclose : close? (body ++ '"' :: back) with
    | none => simp [hclose] at h
    | some found =>
        obtain ⟨body', back'⟩ := found
        simp only [hclose] at h
        split_ifs at h with hnull
        obtain ⟨codes', hdecode, heq⟩ := Option.map_eq_some_iff.mp h
        obtain ⟨rfl, rfl⟩ := Prod.mk.inj heq
        obtain rfl := List.append_cancel_right (eq_append_of_closeFrom hclose)
        exact ⟨rfl, hnull, hdecode⟩
  · rintro ⟨hclose, hnull, hdecode⟩
    simp only [if_neg (take_two_ne_of_close? hclose hback), hclose, if_neg hnull, hdecode]
    rfl

/-- A text between quotes is read as itself exactly if it is verbatim. -/
theorem read?_eq_some_iff_isVerbatim (hback : back.head? ≠ some '"') :
    read? named ('"' :: text ++ '"' :: back) = some (text.map Char.toNat, back) ↔ IsVerbatim text := by
  rw [read?_eq_some_iff hback]
  constructor
  · rintro ⟨hclose, hnull, hdecode⟩
    exact isVerbatim_of_close?_of_decode? hclose hdecode hnull
  · intro h
    exact ⟨close?_of_isVerbatim h back, h.null, decode?_of_isVerbatim h⟩

/-! ### Escaped texts -/

/-- The character stands for itself and ends nothing. -/
def IsPlain (c : Char) : Prop :=
  c ≠ '"' ∧ c ≠ '\n' ∧ c ≠ '\r' ∧ c ≠ '\\'

instance : DecidablePred IsPlain :=
  fun _ => inferInstanceAs (Decidable (_ ∧ _))

/-- What stands for a character in the body of a literal: the character itself, or an escape, whose opener
may have digits behind it. -/
inductive Encodes (c : Char) : List Char → Prop where
  | itself (h : IsPlain c) : Encodes c [c]
  | escape {opener : Char} {digits : List Char} (hfeed : opener ≠ '\n') (hreturn : opener ≠ '\r')
      (hdigits : ∀ d ∈ digits, IsPlain d)
      (hescape : ∀ named cs, escape? named (opener :: digits ++ cs) = some ([c.toNat], digits.length + 1)) :
      Encodes c ('\\' :: opener :: digits)

theorem closeFrom_append (h : ∀ c ∈ text, IsPlain c) (cs : List Char) :
    closeFrom 0 (text ++ cs) = (closeFrom 0 cs).map (Prod.map (text ++ ·) id) := by
  induction text with
  | nil => exact Option.map_id'.symm
  | cons c text ih =>
      rw [List.forall_mem_cons] at h
      obtain ⟨⟨hquote, hfeed, hreturn, hbackslash⟩, htext⟩ := h
      rw [List.cons_append, closeFrom_cons hquote hfeed hreturn hbackslash, ih htext, Option.map_map]
      rfl

theorem decodeFrom_length_append (front back : List Char) :
    decodeFrom named front.length (front ++ back) = decodeFrom named 0 back := by
  induction front with
  | nil => rfl
  | cons c front ih => exact ih

theorem ne_lineEnd_of_encodes (h : Encodes c text) {d : Char} (hd : d ∈ text) : d ≠ '\n' ∧ d ≠ '\r' := by
  cases h with
  | itself h =>
      obtain rfl := List.mem_singleton.mp hd
      exact ⟨h.2.1, h.2.2.1⟩
  | escape hfeed hreturn hdigits hescape =>
      rcases List.mem_cons.mp hd with rfl | hd
      · decide
      · rcases List.mem_cons.mp hd with rfl | hd
        · exact ⟨hfeed, hreturn⟩
        · exact ⟨(hdigits d hd).2.1, (hdigits d hd).2.2.1⟩

theorem closeFrom_of_encodes (h : Encodes c text) (cs : List Char) :
    closeFrom 0 (text ++ cs) = (closeFrom 0 cs).map (Prod.map (text ++ ·) id) := by
  cases h with
  | itself h => exact closeFrom_append (List.forall_mem_singleton.mpr h) cs
  | escape hfeed hreturn hdigits hescape =>
      rw [List.cons_append, List.cons_append, closeFrom_escaped hreturn, closeFrom_append hdigits,
        Option.map_map]
      rfl

theorem decodeFrom_of_encodes (h : Encodes c text) (cs : List Char) :
    decodeFrom named 0 (text ++ cs) = (decodeFrom named 0 cs).map (c.toNat :: ·) := by
  cases h with
  | itself h => exact decodeFrom_cons h.2.2.2
  | @escape opener digits hfeed hreturn hdigits hescape =>
      have hrest : decodeFrom named (digits.length + 1) (opener :: digits ++ cs) = decodeFrom named 0 cs :=
        decodeFrom_length_append (opener :: digits) cs
      rw [List.cons_append, decodeFrom, if_pos rfl, hescape]
      simp only [hrest]
      rfl

variable {write : Char → List Char}

theorem close?_flatMap (hwrite : ∀ c, Encodes c (write c)) (cs back : List Char) :
    close? (cs.flatMap write ++ '"' :: back) = some (cs.flatMap write, back) := by
  unfold close?
  induction cs with
  | nil => rfl
  | cons c cs ih =>
      rw [List.flatMap_cons, List.append_assoc, closeFrom_of_encodes (hwrite c), ih]
      rfl

theorem decode?_flatMap (hwrite : ∀ c, Encodes c (write c)) (cs : List Char) :
    decode? named (cs.flatMap write) = some (cs.map Char.toNat) := by
  unfold decode?
  induction cs with
  | nil => rfl
  | cons c cs ih =>
      rw [List.flatMap_cons, decodeFrom_of_encodes (hwrite c), ih]
      rfl

/-- Escaping is undone by reading. -/
theorem read?_flatMap (hwrite : ∀ c, Encodes c (write c)) (hnull : ∀ c, '\x00' ∉ write c) (cs : List Char)
    (hback : back.head? ≠ some '"') :
    read? named ('"' :: cs.flatMap write ++ '"' :: back) = some (cs.map Char.toNat, back) := by
  refine (read?_eq_some_iff hback).mpr ⟨close?_flatMap hwrite cs back, ?_, decode?_flatMap hwrite cs⟩
  intro hmem
  obtain ⟨c, _, hc⟩ := List.mem_flatMap.mp hmem
  exact hnull c hc

end SchemaScribe.StringLiteral
