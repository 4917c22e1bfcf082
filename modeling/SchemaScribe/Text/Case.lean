import SchemaScribe.Text.Blank
import SchemaScribe.Text.CaseTable
import SchemaScribe.Text.CodePoint

/-!
Full case mappings, which can change the length of a text. Lower-casing looks at the neighbours of a
capital sigma: at the end of a word it becomes the final form.
-/

namespace SchemaScribe.Text

/-- The image of a character outside ASCII under a table of expansions and a table of runs. -/
def mappedBy (expansions : List (Nat × List Nat)) (runs : List CaseRun) (c : Char) : List Char :=
  match expansions.lookup c.toNat with
  | some codes => codes.map Char.ofNat
  | none =>
    match runs.find? (·.covers c.toNat) with
    | some run => [Char.ofNat (run.image c.toNat)]
    | none => [c]

def upperChar (c : Char) : List Char :=
  if c.toNat < 0x80 then [c.toUpper] else mappedBy upperExpansions upperRuns c

def lowerChar (c : Char) : List Char :=
  if c.toNat < 0x80 then [c.toLower] else mappedBy lowerExpansions lowerRuns c

/-- Whether the nearest character that is not case-ignorable is cased. -/
def startsCased (cs : List Char) : Bool :=
  match cs.dropWhile fun c => inRanges caseIgnorableRanges c.toNat with
  | [] => false
  | c :: _ => inRanges casedRanges c.toNat

/-- Lower-cases `cs`, given what stands before it with the nearest character first. -/
def lowerAfter (before : List Char) : List Char → List Char
  | [] => []
  | c :: after =>
    let image :=
      if c = 'Σ' then [if startsCased before && !startsCased after then 'ς' else 'σ'] else lowerChar c
    image ++ lowerAfter (c :: before) after

def lowerChars (cs : List Char) : List Char :=
  lowerAfter [] cs

def upperChars (cs : List Char) : List Char :=
  cs.flatMap upperChar

def lower (s : String) : String :=
  String.ofList (lowerChars s.toList)

/-- The lower-case mapping of a text that is given by code points; halves of surrogate pairs have no case. -/
def lowerCodes (codes : List Nat) : List Nat :=
  let substituted := codes.filter fun code => shownChar code = '\ufffd'
  withSubstituted substituted (lowerChars (codes.map shownChar))

def upper (s : String) : String :=
  String.ofList (upperChars s.toList)

/-- Whether `c` is the lower-case ASCII letter `letter` when letter case is ignored. Besides the capital,
`i` also stands for its dotted capital and dotless form, `s` for the long s and `k` for the Kelvin sign. -/
def foldsTo (letter c : Char) : Bool :=
  c.toLower == letter
    || (letter == 'i' && (c == 'İ' || c == 'ı'))
    || (letter == 's' && c == 'ſ')
    || (letter == 'k' && c == '\u212a')

end SchemaScribe.Text
