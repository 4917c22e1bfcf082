import SchemaScribe.Proofs.StringLiteral

/-!
# Reading the arguments of a call

A call is read as tokens. Blanks and line ends between its brackets count for nothing, a word is as long as it
can be, and what is neither a word nor a literal is read character by character. Two literals side by side are
no argument, and neither is a word without an equals sign. An argument without a keyword stands in front of
those with one.
-/

namespace SchemaScribe

/-- A piece of source text. `malformed` is a quote that starts no literal; nothing is read behind it. -/
inductive Token where
  | word (text : List Char)
  | literal (codes : List Nat)
  | symbol (c : Char)
  | malformed
  deriving Repr, DecidableEq

namespace Token

open StringLiteral

def isSpace (c : Char) : Bool :=
  c = ' ' || c = '\t' || c = '\x0c' || c = '\n' || c = '\r'

def isWordStart (c : Char) : Bool :=
  c.isAlpha || c = '_'

def isWordChar (c : Char) : Bool :=
  c.isAlphanum || c = '_'

/-- The tokens of a text. `skip` counts characters that belong to the last token. -/
def readFrom (named : List Char → Option Nat) : Nat → List Char → List Token
  | _, [] => []
  | skip + 1, _ :: cs => readFrom named skip cs
  | 0, c :: cs =>
    if isSpace c then readFrom named 0 cs
    else if c = '"' then
      match StringLiteral.read? named (c :: cs) with
      | none => [malformed]
      | some (codes, back) => literal codes :: readFrom named (cs.length - back.length) cs
    else if isWordStart c then
      let rest := cs.takeWhile isWordChar
      word (c :: rest) :: readFrom named rest.length cs
    else symbol c :: readFrom named 0 cs

def read (named : List Char → Option Nat) (cs : List Char) : List Token :=
  readFrom named 0 cs

/-- The arguments without a keyword, which are literals, and the tokens from the first keyword or the closing
bracket on. -/
def positional? : List Token → Option (List (List Nat) × List Token)
  | literal codes :: symbol ',' :: rest => (positional? rest).map (Prod.map (codes :: ·) id)
  | literal codes :: symbol ')' :: rest => some ([codes], symbol ')' :: rest)
  | word name :: symbol '=' :: rest =>
    if rest.head? = some (symbol '=') then none else some ([], word name :: symbol '=' :: rest)
  | symbol ')' :: rest => some ([], symbol ')' :: rest)
  | _ => none

/-- The arguments by keyword, which are literals, and the tokens behind the closing bracket. -/
def keywords? : List Token → Option (List (List Char × List Nat) × List Token)
  | word name :: symbol '=' :: literal codes :: symbol ',' :: rest =>
    (keywords? rest).map (Prod.map ((name, codes) :: ·) id)
  | word name :: symbol '=' :: literal codes :: symbol ')' :: rest => some ([(name, codes)], rest)
  | symbol ')' :: rest => some ([], rest)
  | _ => none

/-- All arguments of a call that has nothing behind its closing bracket. -/
def arguments? (tokens : List Token) : Option (List (List Nat) × List (List Char × List Nat)) :=
  match positional? tokens with
  | none => none
  | some (values, rest) =>
    match keywords? rest with
    | some (keywords, []) => some (values, keywords)
    | _ => none

example : arguments? (read (fun _ => none) "\"a, b\" ,\"\\\"\", name=\"n\")".toList) =
    some (["a, b".toList.map Char.toNat, [0x22]], [("name".toList, [0x6e])]) := by decide

variable {named : List Char → Option Nat} {body back : List Char} {codes : List Nat}

theorem readFrom_length_append (front back : List Char) :
    readFrom named front.length (front ++ back) = read named back := by
  induction front with
  | nil => rfl
  | cons c front ih => exact ih

theorem read_literal (h : read? named ('"' :: body ++ '"' :: back) = some (codes, back)) :
    read named ('"' :: body ++ '"' :: back) = literal codes :: read named back := by
  have hlength : (body ++ '"' :: back).length - back.length = (body ++ ['"']).length := by
    simp only [List.length_append, List.length_cons, List.length_nil]
    omega
  have hsplit : body ++ '"' :: back = (body ++ ['"']) ++ back := by
    rw [List.append_assoc, List.singleton_append]
  rw [List.cons_append] at h ⊢
  rw [read, readFrom, if_neg (by decide), if_pos rfl, h]
  simp only [hlength]
  rw [hsplit, readFrom_length_append]

theorem head?_read_quote (cs : List Char) (c : Char) : (read named ('"' :: cs)).head? ≠ some (symbol c) := by
  rw [read, readFrom, if_neg (by decide), if_pos rfl]
  split <;> simp

/-- Literals with a comma behind each are arguments in their order. -/
theorem positional?_literals (values : List (List Nat)) {tokens rest : List Token}
    (h : positional? tokens = some ([], rest)) :
    positional? (values.flatMap (fun codes => [literal codes, symbol ',']) ++ tokens) = some (values, rest) := by
  induction values with
  | nil => exact h
  | cons codes values ih =>
      have hfirst : positional? (literal codes :: symbol ',' ::
          (values.flatMap (fun codes => [literal codes, symbol ',']) ++ tokens)) =
          some (codes :: values, rest) := by
        rw [positional?, ih]
        rfl
      exact hfirst

theorem positional?_keyword (name : List Char) {rest : List Token} (h : rest.head? ≠ some (symbol '=')) :
    positional? (word name :: symbol '=' :: rest) = some ([], word name :: symbol '=' :: rest) := by
  rw [positional?, if_neg h]

end Token

end SchemaScribe
