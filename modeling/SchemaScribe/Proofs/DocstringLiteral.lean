import SchemaScribe.Proofs.LineBreaks
import SchemaScribe.Proofs.ModelClass
import SchemaScribe.Proofs.StringLiteral

/-!
# Docstrings as literals

The comment of a table stands between threefold quotes. Such a literal ends at the first three quotes in a row of
which none is escaped. A backslash is put before each three quotes, but runs of quotes can be longer, they can
stand at the end, where the closing quotes follow, and the comment can have backslashes of its own. The texts
that remain one literal are described by a grammar, and it is shown to be exact.
-/

namespace SchemaScribe

open Text

/-! ### Literals between threefold quotes -/

namespace TripleQuoted

def quotes : List Char := ['"', '"', '"']

/-- The body that is found, with `front` before it. -/
def prepend (front : List Char) (found : Option (List Char × List Char)) : Option (List Char × List Char) :=
  found.map (Prod.map (front ++ ·) id)

/-- The body of a literal and the text behind its closing quotes. `skip` counts characters that are escaped. -/
def closeFrom : Nat → List Char → Option (List Char × List Char)
  | _, [] => none
  | skip + 1, c :: cs => prepend [c] (closeFrom skip cs)
  | 0, c :: cs =>
    if c = '"' ∧ cs.take 2 = ['"', '"'] then some ([], cs.drop 2)
    else prepend [c] (closeFrom (if c = '\\' then 1 else 0) cs)

def close? (cs : List Char) : Option (List Char × List Char) :=
  closeFrom 0 cs

/-- The value of the literal that starts here, and the text behind it. Every line end in it is a line feed. -/
def read? (named : List Char → Option Nat) : List Char → Option (List Nat × List Char)
  | '"' :: '"' :: '"' :: cs =>
    match close? cs with
    | none => none
    | some (body, back) => (StringLiteral.decode? named (unifyLineEnds body)).map fun codes => (codes, back)
  | _ => none

example : read? (fun _ => none) "\"\"\"a \"b\" \\\"\"\"c\"\"\" # d".toList =
    some ("a \"b\" \"\"\"c".toList.map Char.toNat, " # d".toList) := by decide

variable {c : Char} {cs front body back : List Char} {found : Option (List Char × List Char)}

theorem prepend_nil : prepend [] found = found := by
  cases found <;> rfl

theorem prepend_append (front rest : List Char) :
    prepend (front ++ rest) found = prepend front (prepend rest found) := by
  cases found with
  | none => rfl
  | some pair => exact congrArg (fun body => some (body, pair.2)) (List.append_assoc front rest pair.1)

theorem prepend_eq_some_iff (front : List Char) :
    prepend front found = some (front ++ body, back) ↔ found = some (body, back) := by
  cases found with
  | none => exact ⟨nofun, nofun⟩
  | some pair =>
      obtain ⟨body', back'⟩ := pair
      simp [prepend]

theorem isPrefix_of_prepend (h : prepend front found = some (body, back)) : front <+: body := by
  obtain ⟨⟨rest, back'⟩, _, heq⟩ := Option.map_eq_some_iff.mp h
  exact ⟨rest, congrArg Prod.fst heq⟩

theorem eq_append_of_closeFrom {skip : Nat} (h : closeFrom skip cs = some (body, back)) :
    cs = body ++ (quotes ++ back) := by
  induction cs generalizing skip body with
  | nil => simp [closeFrom] at h
  | cons c cs ih =>
      have hcons : ∀ {skip'}, prepend [c] (closeFrom skip' cs) = some (body, back) →
          c :: cs = body ++ (quotes ++ back) := by
        intro skip' h
        obtain ⟨rest, rfl⟩ := isPrefix_of_prepend h
        rw [ih ((prepend_eq_some_iff _).mp h)]
        rfl
      cases skip with
      | succ skip => exact hcons h
      | zero =>
          unfold closeFrom at h
          split at h
          · rename_i hquotes
            obtain ⟨rfl, rfl⟩ := Prod.mk.inj (Option.some.inj h)
            rw [hquotes.1, ← List.take_append_drop 2 cs, hquotes.2]
            rfl
          · exact hcons h

theorem eq_append_of_close? (h : close? cs = some (body, back)) : cs = body ++ (quotes ++ back) :=
  eq_append_of_closeFrom h

theorem close?_cons (hquote : c ≠ '"') (hbackslash : c ≠ '\\') : close? (c :: cs) = prepend [c] (close? cs) := by
  rw [close?, closeFrom, if_neg (fun h => hquote h.1), if_neg hbackslash]
  rfl

theorem close?_escaped (c : Char) (cs : List Char) : close? ('\\' :: c :: cs) = prepend ['\\', c] (close? cs) := by
  rw [close?, closeFrom, if_neg (fun h => absurd h.1 (by decide)), if_pos rfl, closeFrom, ← prepend_append]
  rfl

theorem take_two_ne_of_head? (hcs : cs.head? ≠ some '"') :
    cs.take 2 ≠ ['"', '"'] ∧ ('"' :: cs).take 2 ≠ ['"', '"'] := by
  cases cs with
  | nil => exact ⟨nofun, nofun⟩
  | cons c cs =>
      have hc : c ≠ '"' := by simpa using hcs
      simp [hc]

theorem close?_quote (hcs : cs.take 2 ≠ ['"', '"']) : close? ('"' :: cs) = prepend ['"'] (close? cs) := by
  rw [close?, closeFrom, if_neg (fun h => hcs h.2), if_neg (by decide)]
  rfl

/-- One or two quotes in a row do not end a literal. -/
theorem close?_replicate {n : Nat} (hn : n < 3) (hcs : cs.head? ≠ some '"') :
    close? (List.replicate n '"' ++ cs) = prepend (List.replicate n '"') (close? cs) := by
  obtain ⟨hone, htwo⟩ := take_two_ne_of_head? hcs
  match n, hn with
  | 0, _ => exact prepend_nil.symm
  | 1, _ => exact close?_quote hone
  | 2, _ =>
      change close? ('"' :: '"' :: cs) = _
      rw [close?_quote htwo, close?_quote hone, ← prepend_append]
      rfl

theorem read?_eq_some_iff {named : List Char → Option Nat} {codes : List Nat} :
    read? named (quotes ++ (body ++ (quotes ++ back))) = some (codes, back) ↔
      close? (body ++ (quotes ++ back)) = some (body, back) ∧
        StringLiteral.decode? named (unifyLineEnds body) = some codes := by
  have hopen : ∀ cs, quotes ++ cs = '"' :: '"' :: '"' :: cs := fun _ => rfl
  rw [hopen, read?]
  constructor
  · intro h
    cases hclose : close? (body ++ (quotes ++ back)) with
    | none => simp [hclose] at h
    | some found =>
        obtain ⟨body', back'⟩ := found
        simp only [hclose] at h
        obtain ⟨codes', hdecode, heq⟩ := Option.map_eq_some_iff.mp h
        obtain ⟨rfl, rfl⟩ := Prod.mk.inj heq
        obtain rfl := List.append_cancel_right (eq_append_of_close? hclose)
        exact ⟨rfl, hdecode⟩
  · rintro ⟨hclose, hdecode⟩
    simp only [hclose, hdecode]
    rfl

def escapedQuotes : List Char := '\\' :: quotes

theorem close?_escapedQuotes (hcs : cs.head? ≠ some '"') :
    close? (escapedQuotes ++ cs) = prepend escapedQuotes (close? cs) := by
  have htwo := close?_replicate (n := 2) (by decide) hcs
  change close? ('\\' :: '"' :: (List.replicate 2 '"' ++ cs)) = _
  rw [close?_escaped, htwo, ← prepend_append]
  rfl

theorem close?_flatten_escapedQuotes (k : Nat) (hcs : cs.head? ≠ some '"') :
    close? ((List.replicate k escapedQuotes).flatten ++ cs) =
      prepend (List.replicate k escapedQuotes).flatten (close? cs) := by
  induction k with
  | zero => exact prepend_nil.symm
  | succ k ih =>
      have hhead : ((List.replicate k escapedQuotes).flatten ++ cs).head? ≠ some '"' := by
        cases k with
        | zero => exact hcs
        | succ k => simp [List.replicate_succ, escapedQuotes]
      rw [List.replicate_succ, List.flatten_cons, List.append_assoc, close?_escapedQuotes hhead, ih,
        prepend_append]

/-- A fourth quote behind three that have a backslash ends the literal: only the first of them is escaped. -/
theorem close?_flatten_escapedQuotes_ne {k : Nat} (hk : 0 < k) :
    close? ((List.replicate k escapedQuotes).flatten ++ '"' :: cs) ≠
      some ((List.replicate k escapedQuotes).flatten ++ body, back) := by
  obtain ⟨k, rfl⟩ := Nat.exists_eq_succ_of_ne_zero hk.ne'
  have hlast : (List.replicate (k + 1) escapedQuotes).flatten =
      (List.replicate k escapedQuotes).flatten ++ escapedQuotes := by
    rw [List.replicate_succ', List.flatten_concat]
  have hhead : (escapedQuotes ++ '"' :: cs).head? ≠ some '"' := by simp [escapedQuotes]
  have hends : close? (escapedQuotes ++ '"' :: cs) = some (['\\', '"'], cs) := rfl
  rw [hlast, List.append_assoc, List.append_assoc, close?_flatten_escapedQuotes k hhead, hends, ne_eq,
    prepend_eq_some_iff]
  intro h
  cases h

end TripleQuoted

/-! ### Runs of quotes -/

namespace Source

open TripleQuoted

/-- The texts that stay one literal between threefold quotes when a backslash is put before each three quotes.
An escaped quote has at most one quote behind it. A run of other quotes has one, two or a multiple of three, and
it is not at the end. -/
inductive Enclosable : List Char → Prop where
  | nil : Enclosable []
  | plain {c : Char} {cs : List Char} (hquote : c ≠ '"') (hbackslash : c ≠ '\\') (h : Enclosable cs) :
      Enclosable (c :: cs)
  | escape {c : Char} {cs : List Char} (hc : c = '"' → cs.take 2 ≠ ['"', '"']) (h : Enclosable cs) :
      Enclosable ('\\' :: c :: cs)
  | run {n : Nat} {c : Char} {cs : List Char} (hpos : 0 < n) (hn : n < 3 ∨ 3 ∣ n) (hc : c ≠ '"')
      (h : Enclosable (c :: cs)) : Enclosable (List.replicate n '"' ++ c :: cs)

variable {c : Char} {cs rest back : List Char} {n k j : Nat}

theorem exists_run (cs : List Char) :
    ∃ n rest, cs = List.replicate n '"' ++ rest ∧ rest.head? ≠ some '"' := by
  induction cs with
  | nil => exact ⟨0, [], rfl, nofun⟩
  | cons c cs ih =>
      by_cases hc : c = '"'
      · obtain ⟨n, rest, rfl, hrest⟩ := ih
        exact ⟨n + 1, rest, by rw [hc, List.replicate_succ, List.cons_append], hrest⟩
      · exact ⟨0, c :: cs, rfl, by simpa using hc⟩

theorem eq_of_run_eq {m : Nat} {rest' : List Char} (hrest : rest.head? ≠ some '"')
    (hrest' : rest'.head? ≠ some '"')
    (h : List.replicate n '"' ++ rest = List.replicate m '"' ++ rest') : n = m ∧ rest = rest' := by
  induction n generalizing m with
  | zero =>
      cases m with
      | zero => exact ⟨rfl, h⟩
      | succ m =>
          rw [List.replicate_zero, List.nil_append] at h
          rw [h] at hrest
          exact absurd rfl hrest
  | succ n ih =>
      cases m with
      | zero =>
          rw [List.replicate_zero, List.nil_append] at h
          rw [← h] at hrest'
          exact absurd rfl hrest'
      | succ m =>
          obtain ⟨hn, heq⟩ := ih (List.cons.inj h).2
          exact ⟨congrArg Nat.succ hn, heq⟩

theorem enclosable_cons_iff (hquote : c ≠ '"') (hbackslash : c ≠ '\\') :
    Enclosable (c :: cs) ↔ Enclosable cs := by
  refine ⟨?_, .plain hquote hbackslash⟩
  intro h
  generalize htext : c :: cs = text at h
  cases h with
  | nil => cases htext
  | plain _ _ h =>
      obtain ⟨rfl, rfl⟩ := List.cons.inj htext
      exact h
  | escape _ _ => exact absurd (List.cons.inj htext).1 hbackslash
  | @run n _ _ hpos _ _ _ =>
      obtain ⟨m, rfl⟩ := Nat.exists_eq_succ_of_ne_zero hpos.ne'
      exact absurd (List.cons.inj htext).1 hquote

theorem enclosable_backslash_iff :
    Enclosable ('\\' :: cs) ↔
      ∃ c rest, cs = c :: rest ∧ (c = '"' → rest.take 2 ≠ ['"', '"']) ∧ Enclosable rest := by
  constructor
  · intro h
    generalize htext : '\\' :: cs = text at h
    cases h with
    | nil => cases htext
    | plain _ hbackslash _ => exact absurd (List.cons.inj htext).1.symm hbackslash
    | escape hc h => exact ⟨_, _, (List.cons.inj htext).2, hc, h⟩
    | @run n _ _ hpos _ _ _ =>
        obtain ⟨m, rfl⟩ := Nat.exists_eq_succ_of_ne_zero hpos.ne'
        exact absurd (List.cons.inj htext).1 (by decide)
  · rintro ⟨c, rest, rfl, hc, h⟩
    exact .escape hc h

theorem enclosable_run_iff (hpos : 0 < n) (hrest : rest.head? ≠ some '"') :
    Enclosable (List.replicate n '"' ++ rest) ↔ rest ≠ [] ∧ (n < 3 ∨ 3 ∣ n) ∧ Enclosable rest := by
  constructor
  · intro h
    obtain ⟨m, rfl⟩ := Nat.exists_eq_succ_of_ne_zero hpos.ne'
    generalize htext : List.replicate (m + 1) '"' ++ rest = text at h
    cases h with
    | nil => cases htext
    | plain hquote _ _ => exact absurd (List.cons.inj htext).1.symm hquote
    | escape _ _ => exact absurd (List.cons.inj htext).1 (by decide)
    | run _ hn hc h =>
        obtain ⟨rfl, rfl⟩ := eq_of_run_eq hrest (by simpa using hc) htext
        exact ⟨List.cons_ne_nil _ _, hn, h⟩
  · rintro ⟨hne, hn, h⟩
    obtain ⟨c, cs, rfl⟩ := List.exists_cons_of_ne_nil hne
    exact .run hpos hn (by simpa using hrest) h

/-! ### Escaping -/

theorem escapeTripleQuotes_cons (h : c = '"' → cs.take 2 ≠ ['"', '"']) :
    escapeTripleQuotes (c :: cs) = c :: escapeTripleQuotes cs := by
  rw [escapeTripleQuotes]
  rintro rest rfl rfl
  exact h rfl rfl

/-- A run of quotes, cut into threes with a backslash before each. -/
theorem escapeTripleQuotes_run (k : Nat) (hj : j < 3) (hrest : rest.head? ≠ some '"') :
    escapeTripleQuotes (List.replicate (3 * k + j) '"' ++ rest) =
      (List.replicate k escapedQuotes).flatten ++ (List.replicate j '"' ++ escapeTripleQuotes rest) := by
  obtain ⟨hone, htwo⟩ := take_two_ne_of_head? hrest
  induction k with
  | zero =>
      match j, hj with
      | 0, _ => rfl
      | 1, _ => exact escapeTripleQuotes_cons fun _ => hone
      | 2, _ =>
          change escapeTripleQuotes ('"' :: '"' :: rest) = _
          rw [escapeTripleQuotes_cons fun _ => htwo, escapeTripleQuotes_cons fun _ => hone]
          rfl
  | succ k ih =>
      have hlength : 3 * (k + 1) + j = 3 * k + j + 1 + 1 + 1 := by omega
      rw [hlength, List.replicate_succ, List.replicate_succ, List.replicate_succ, List.replicate_succ,
        List.flatten_cons, List.cons_append, List.cons_append, List.cons_append, escapeTripleQuotes, ih]
      rfl

theorem head?_escapeTripleQuotes_append (hne : rest ≠ []) (hrest : rest.head? ≠ some '"') (back : List Char) :
    (escapeTripleQuotes rest ++ back).head? ≠ some '"' := by
  obtain ⟨c, cs, rfl⟩ := List.exists_cons_of_ne_nil hne
  have hc : c ≠ '"' := by simpa using hrest
  rw [escapeTripleQuotes_cons fun heq => absurd heq hc]
  exact hrest

/-- Quotes at the end of a text close the literal together with those behind it. -/
theorem close?_run_at_end_ne (k : Nat) (hj : j < 3) (hpos : 0 < 3 * k + j) :
    close? ((List.replicate k escapedQuotes).flatten ++ (List.replicate j '"' ++ (quotes ++ back))) ≠
      some ((List.replicate k escapedQuotes).flatten ++ List.replicate j '"', back) := by
  by_cases hk : k = 0
  · subst hk
    match j, hj with
    | 0, _ => exact absurd hpos (by decide)
    | 1, _ => exact nofun
    | 2, _ => exact nofun
  · have hend : ∃ cs, List.replicate j '"' ++ (quotes ++ back) = '"' :: cs := by
      cases j with
      | zero => exact ⟨_, rfl⟩
      | succ j => exact ⟨_, rfl⟩
    obtain ⟨cs, hcs⟩ := hend
    rw [hcs]
    exact close?_flatten_escapedQuotes_ne (Nat.pos_of_ne_zero hk)

theorem close?_escapeTripleQuotes_run_iff (hpos : 0 < n) (hrest : rest.head? ≠ some '"') :
    close? (escapeTripleQuotes (List.replicate n '"' ++ rest) ++ (quotes ++ back)) =
        some (escapeTripleQuotes (List.replicate n '"' ++ rest), back) ↔
      rest ≠ [] ∧ (n < 3 ∨ 3 ∣ n) ∧
        close? (escapeTripleQuotes rest ++ (quotes ++ back)) = some (escapeTripleQuotes rest, back) := by
  obtain ⟨k, j, hj, rfl⟩ : ∃ k j, j < 3 ∧ n = 3 * k + j :=
    ⟨n / 3, n % 3, Nat.mod_lt n (by decide), (Nat.div_add_mod n 3).symm⟩
  rw [escapeTripleQuotes_run k hj hrest, List.append_assoc, List.append_assoc]
  by_cases hne : rest = []
  · subst hne
    rw [escapeTripleQuotes, List.nil_append, List.append_nil]
    exact iff_of_false (close?_run_at_end_ne k hj hpos) (fun h => h.1 rfl)
  have hhead := head?_escapeTripleQuotes_append hne hrest (quotes ++ back)
  by_cases hk : k = 0
  · subst hk
    rw [List.replicate_zero, List.flatten_nil, List.nil_append, List.nil_append, close?_replicate hj hhead,
      prepend_eq_some_iff]
    exact ⟨fun h => ⟨hne, Or.inl (by omega), h⟩, fun h => h.2.2⟩
  by_cases hzero : j = 0
  · subst hzero
    rw [List.replicate_zero, List.nil_append, List.nil_append, close?_flatten_escapedQuotes k hhead,
      prepend_eq_some_iff]
    exact ⟨fun h => ⟨hne, Or.inr ⟨k, rfl⟩, h⟩, fun h => h.2.2⟩
  · obtain ⟨m, rfl⟩ := Nat.exists_eq_succ_of_ne_zero hzero
    refine iff_of_false (close?_flatten_escapedQuotes_ne (Nat.pos_of_ne_zero hk)) ?_
    rintro ⟨_, hn, _⟩
    omega

theorem close?_escapeTripleQuotes_backslash_iff :
    close? (escapeTripleQuotes ('\\' :: cs) ++ (quotes ++ back)) = some (escapeTripleQuotes ('\\' :: cs), back) ↔
      ∃ c rest, cs = c :: rest ∧ (c = '"' → rest.take 2 ≠ ['"', '"']) ∧
        close? (escapeTripleQuotes rest ++ (quotes ++ back)) = some (escapeTripleQuotes rest, back) := by
  rw [escapeTripleQuotes_cons (by simp), List.cons_append]
  cases cs with
  | nil =>
      refine iff_of_false ?_ (by simp)
      intro h
      have hprefix := isPrefix_of_prepend ((close?_escaped _ _).symm.trans h)
      simp [escapeTripleQuotes] at hprefix
  | cons c rest =>
      by_cases hc : c = '"' → rest.take 2 ≠ ['"', '"']
      · rw [escapeTripleQuotes_cons hc, List.cons_append, close?_escaped]
        refine (prepend_eq_some_iff ['\\', c]).trans ?_
        constructor
        · intro h
          exact ⟨c, rest, rfl, hc, h⟩
        · rintro ⟨_, _, heq, _, h⟩
          obtain ⟨rfl, rfl⟩ := List.cons.inj heq
          exact h
      · refine iff_of_false ?_ ?_
        · -- The backslash of the text escapes the one put before the quotes, and these end the literal.
          obtain ⟨rfl, htake⟩ := Classical.not_imp.mp hc
          obtain ⟨rest, rfl⟩ : ∃ back, rest = '"' :: '"' :: back :=
            ⟨rest.drop 2, by rw [← List.take_append_drop 2 rest, not_not.mp htake]; rfl⟩
          have hends : close? ('\\' :: (escapeTripleQuotes ('"' :: '"' :: '"' :: rest) ++ (quotes ++ back))) =
              some (['\\', '\\'], escapeTripleQuotes rest ++ (quotes ++ back)) := rfl
          rw [hends]
          exact nofun
        · rintro ⟨_, _, heq, hc', _⟩
          obtain ⟨rfl, rfl⟩ := List.cons.inj heq
          exact hc hc'

/-- Whatever follows, an escaped text is closed by the quotes behind it exactly if the grammar has the text. -/
theorem close?_escapeTripleQuotes_iff (cs back : List Char) :
    close? (escapeTripleQuotes cs ++ (quotes ++ back)) = some (escapeTripleQuotes cs, back) ↔ Enclosable cs := by
  -- A backslash takes the next character along, and a run is taken at once, so the induction is on the length.
  induction hlength : cs.length using Nat.strong_induction_on generalizing cs with
  | _ length ih =>
      cases cs with
      | nil => exact iff_of_true rfl .nil
      | cons c cs =>
          rw [List.length_cons] at hlength
          by_cases hbackslash : c = '\\'
          · subst hbackslash
            rw [close?_escapeTripleQuotes_backslash_iff, enclosable_backslash_iff]
            refine exists_congr fun d => exists_congr fun rest => and_congr_right fun hcs => ?_
            have hshorter : rest.length < length := by
              rw [hcs, List.length_cons] at hlength
              omega
            rw [ih rest.length hshorter rest rfl]
          · by_cases hquote : c = '"'
            · subst hquote
              obtain ⟨n, rest, rfl, hrest⟩ := exists_run cs
              have hshorter : rest.length < length := by
                rw [List.length_append] at hlength
                omega
              have hrun : '"' :: (List.replicate n '"' ++ rest) = List.replicate (n + 1) '"' ++ rest := rfl
              rw [hrun, close?_escapeTripleQuotes_run_iff n.succ_pos hrest, enclosable_run_iff n.succ_pos hrest,
                ih rest.length hshorter rest rfl]
            · rw [escapeTripleQuotes_cons fun heq => absurd heq hquote, List.cons_append,
                close?_cons hquote hbackslash, enclosable_cons_iff hquote hbackslash]
              exact (prepend_eq_some_iff [c]).trans (ih cs.length (by omega) cs rfl)

instance (cs : List Char) : Decidable (Enclosable cs) :=
  decidable_of_iff _ (close?_escapeTripleQuotes_iff cs [])

/-! ### The value of a docstring -/

theorem eq_or_mem_of_mem_escapeTripleQuotes {x : Char} (h : x ∈ escapeTripleQuotes cs) : x = '\\' ∨ x ∈ cs := by
  fun_induction escapeTripleQuotes cs with
  | case1 cs ih =>
      simp only [List.mem_cons] at h ⊢
      tauto
  | case2 c cs _ ih =>
      simp only [List.mem_cons] at h ⊢
      tauto
  | case3 => exact absurd h List.not_mem_nil

theorem decode?_escapeTripleQuotes {named : List Char → Option Nat} (h : '\\' ∉ cs) :
    StringLiteral.decode? named (escapeTripleQuotes cs) = some (cs.map Char.toNat) := by
  unfold StringLiteral.decode?
  fun_induction escapeTripleQuotes cs with
  | case1 cs ih =>
      simp only [List.mem_cons, not_or] at h
      have hescape : StringLiteral.escape? named ('"' :: '"' :: '"' :: escapeTripleQuotes cs) =
          some (['"'.toNat], 1) := rfl
      rw [StringLiteral.decodeFrom, if_pos rfl, hescape]
      simp only [StringLiteral.decodeFrom]
      rw [if_neg (by decide), if_neg (by decide), ih h.2.2.2]
      rfl
  | case2 c cs _ ih =>
      rw [List.mem_cons, not_or] at h
      rw [StringLiteral.decodeFrom_cons (Ne.symm h.1), ih h.2]
      rfl
  | case3 => rfl

theorem read?_docstring_iff {named : List Char → Option Nat} (hbackslash : '\\' ∉ cs) (hreturn : '\r' ∉ cs) :
    read? named (quotes ++ (escapeTripleQuotes cs ++ (quotes ++ back))) = some (cs.map Char.toNat, back) ↔
      Enclosable cs := by
  have hunify : unifyLineEnds (escapeTripleQuotes cs) = escapeTripleQuotes cs := by
    apply unifyLineEnds_eq_self
    intro hmem
    rcases eq_or_mem_of_mem_escapeTripleQuotes hmem with heq | hmem
    · exact absurd heq (by decide)
    · exact hreturn hmem
  rw [read?_eq_some_iff, close?_escapeTripleQuotes_iff, hunify, decode?_escapeTripleQuotes hbackslash]
  exact and_iff_left rfl

theorem docstring_some {comment : String} (hne : comment ≠ "") :
    docstring (some comment) =
      some (String.ofList (escapeTripleQuotes (replaceLineBreaks ' ' comment.toList))) := by
  unfold docstring
  split
  · contradiction
  · rename_i heq
    exact absurd (Option.some.inj heq) hne
  · rename_i heq
    rw [← Option.some.inj heq]

end Source

open Source TripleQuoted

/-- **Docstrings.** The comment of a table stands between threefold quotes in its class. Whatever follows, the
literal that begins there ends at the quotes behind the comment exactly if the grammar has the comment, with its
line breaks replaced by blanks. If the comment has no backslash and no lone carriage return, this text is then
the value of the literal. -/
theorem Blueprint.docstring_literal_iff {b : Blueprint} {t : Table} {m : ModelClass} {comment : String}
    (hclass : b.modelClass t = .ok m) (hcomment : t.comments = some comment) (hne : comment ≠ "") :
    ∃ body : List Char,
      m.docLines = ["", "    __doc__ = " ++ String.ofList (quotes ++ (body ++ quotes))] ∧
      (∀ back, close? (body ++ (quotes ++ back)) = some (body, back) ↔
        Enclosable (replaceLineBreaks ' ' comment.toList)) ∧
      ('\\' ∉ comment.toList → ReturnsPaired comment.toList → ∀ named back,
        read? named (quotes ++ (body ++ (quotes ++ back))) =
            some ((replaceLineBreaks ' ' comment.toList).map Char.toNat, back) ↔
          Enclosable (replaceLineBreaks ' ' comment.toList)) := by
  refine ⟨escapeTripleQuotes (replaceLineBreaks ' ' comment.toList), ?_, close?_escapeTripleQuotes_iff _, ?_⟩
  · obtain ⟨_, _, rfl⟩ := modelClass_eq_ok_iff.mp hclass
    have hopen : "    __doc__ = \"\"\"" = "    __doc__ = " ++ String.ofList quotes := by decide
    have hclose : "\"\"\"" = String.ofList quotes := by decide
    rw [hcomment, docstring_some hne, ModelClass.docLines, hopen, hclose]
    simp only [String.ofList_append, String.append_assoc]
  · intro hbackslash hreturns named back
    refine read?_docstring_iff ?_ ((return_not_mem_replaceLineBreaks_iff (by decide)).mpr hreturns)
    intro hmem
    rcases eq_or_mem_of_mem_replaceLineBreaks hmem with heq | hmem
    · exact absurd heq (by decide)
    · exact hbackslash hmem

namespace Glossary

def terms (comment : String) : Table := { id := "t", name := "terms", comments := some comment }

/-- One table with a comment. -/
def diagram (comment : String) : Diagram := { tables := [terms comment] }

def blueprint (comment : String) : Blueprint := .ofRelationships (diagram comment) {} []

/-- A comment of two lines with a quoted word becomes one literal. -/
theorem quoted_word_enclosed :
    ∃ m body, (blueprint "An \"alias\"\r\nof a term").modelClass (terms "An \"alias\"\r\nof a term") = .ok m ∧
      m.docLines = ["", "    __doc__ = " ++ String.ofList (quotes ++ (body ++ quotes))] ∧
      ∀ named back, read? named (quotes ++ (body ++ (quotes ++ back))) =
        some ("An \"alias\" of a term".toList.map Char.toNat, back) := by
  obtain ⟨m, hclass⟩ : ∃ m, (blueprint "An \"alias\"\r\nof a term").modelClass
    (terms "An \"alias\"\r\nof a term") = .ok m := ⟨_, rfl⟩
  obtain ⟨body, hlines, _, hread⟩ := Blueprint.docstring_literal_iff hclass rfl (by decide)
  have hreturns : ReturnsPaired "An \"alias\"\r\nof a term".toList :=
    (return_not_mem_replaceLineBreaks_iff (r := ' ') (by decide)).mp (by decide)
  exact ⟨m, body, hclass, hlines, fun named back => (hread (by decide) hreturns named back).mpr (by decide)⟩

/-- A quoted word at the end of a comment closes the literal with two of the quotes behind it, and the third is
left over. -/
theorem final_quote_left_over :
    ∃ m, (blueprint "Alias \"main\"").modelClass (terms "Alias \"main\"") = .ok m ∧
      m.docLines = ["", "    __doc__ = " ++ String.ofList (quotes ++ "Alias \"main\"\"\"\"".toList)] ∧
      ∀ back, close? ("Alias \"main\"\"\"\"".toList ++ back) = some ("Alias \"main".toList, '"' :: back) :=
  ⟨_, rfl, by decide, fun _ => rfl⟩

end Glossary

end SchemaScribe
