import SchemaScribe.Document.Value
import SchemaScribe.Text.Case
import SchemaScribe.Text.Search

/-!
The names of generated classes, attributes and association tables, derived from the names of a diagram.
-/

namespace SchemaScribe.Naming

open Text

/-- Underscores, hyphens and blanks separate the words of a table name. -/
def isSeparator (c : Char) : Bool :=
  c = '_' || c = '-' || isBlank c

/-- Drops separators and capitalises what follows them; `capitalise` says whether the next character
starts a word. -/
def pascalFrom (capitalise : Bool) : List Char → List Char
  | [] => []
  | c :: cs =>
    if isSeparator c then pascalFrom true cs
    else (if capitalise then upperChar c else [c]) ++ pascalFrom false cs

def pascalCase (name : String) : String :=
  String.ofList (pascalFrom true name.toList)

/-- A value in the place of a name that is no text. -/
structure NotAName where
  kind : String
  deriving Repr, DecidableEq

def NotAName.message (e : NotAName) : String :=
  s!"Expected string, got {e.kind}"

/-- The class name of a table whose name may be any value. -/
def pascalCaseOf : Document.Value → Except NotAName String
  | .text name => .ok (pascalCase name)
  | v => .error ⟨v.kindWord⟩

def isIdentifierChar (c : Char) : Bool :=
  ('a' ≤ c && c ≤ 'z') || ('A' ≤ c && c ≤ 'Z') || ('0' ≤ c && c ≤ '9') || c = '_'

def sanitizeChar (c : Char) : Char :=
  if isIdentifierChar c then c else '_'

/-- Underscores in place of all characters but ASCII letters, digits and underscores. -/
def sanitize (name : String) : String :=
  String.ofList (name.toList.map sanitizeChar)

/-- Endings after which a plural takes "es". -/
def sibilantEndings : List (List Char) :=
  [['s'], ['x'], ['z'], ['c', 'h'], ['s', 'h']]

/-- Whether a text ends in a sibilant, one line feed at the end not counted. -/
def endsInSibilant (cs : List Char) : Bool :=
  sibilantEndings.any fun ending => ending.isSuffixOf cs || (ending ++ ['\n']).isSuffixOf cs

def isVowel (c : Char) : Bool :=
  c = 'a' || c = 'e' || c = 'i' || c = 'o' || c = 'u'

/-- Whether the reversed text starts with a y after a character other than a vowel. -/
def startsWithConsonantY : List Char → Bool
  | 'y' :: c :: _ => !isVowel c
  | _ => false

/-- Whether a text ends in a y after a character other than a vowel, one line feed at the end not
counted. -/
def endsInConsonantY (cs : List Char) : Bool :=
  startsWithConsonantY cs.reverse
    || (cs.getLast? = some '\n' && startsWithConsonantY cs.dropLast.reverse)

/-- Endings are looked up in the lower-cased name and changed in the name as it is spelled: the rule for
"y" drops its last character. -/
def pluralChars (name : List Char) : List Char :=
  let lowered := lowerChars name
  if ['s'].isSuffixOf lowered then name
  else if endsInSibilant lowered then name ++ ['e', 's']
  else if endsInConsonantY lowered then name.dropLast ++ ['i', 'e', 's']
  else name ++ ['s']

/-- The plural of an English table name; a name that ends in "s" is one already. -/
def pluralize (name : String) : String :=
  String.ofList (pluralChars name.toList)

def collectionAttribute (tableName : String) : String :=
  sanitize (pluralize tableName)

def scalarAttribute (tableName : String) : String :=
  sanitize tableName

def associationMark : String := "assoc"

/-- The name of the table that joins two tables for the relationship at place `ordinal`. -/
def associationName (mark left right : String) (ordinal : Int) : String :=
  sanitize s!"{mark}_{left}_{right}_{ordinal}"

end SchemaScribe.Naming
