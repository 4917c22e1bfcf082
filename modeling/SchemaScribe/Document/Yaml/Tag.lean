import SchemaScribe.Document.Yaml.Timestamp
import SchemaScribe.Text.Search

/-!
Tags: what kind of value a node denotes. A plain scalar without a tag has the one that its form suggests; what
has the form of nothing else is text.
-/

namespace SchemaScribe.Document.Yaml

inductive Tag where
  | null
  | truth
  | integer
  | real
  | timestamp
  | text
  | binary
  | sequence
  | mapping
  /-- A mapping of which only the keys count. -/
  | set
  /-- A sequence of mappings that have one entry each, and different keys. -/
  | orderedMapping
  /-- A sequence of mappings that have one entry each. -/
  | pairs
  /-- The key under which mappings are merged into another one. -/
  | merge
  /-- The key of a mapping's default value. -/
  | default
  | unknown
  deriving Repr, DecidableEq

namespace Tag

/-! ### Tags by name -/

/-- What the names of the common tags start with. -/
def commonStart : String := "tag:yaml.org,2002:"

def commonNames : List (String × Tag) :=
  [("null", null), ("bool", truth), ("int", integer), ("float", real), ("timestamp", timestamp),
    ("str", text), ("binary", binary), ("seq", sequence), ("map", mapping), ("set", set), ("omap", orderedMapping),
    ("pairs", pairs), ("merge", merge), ("value", default)]

/-- The tag of a full name. -/
def ofName (name : String) : Tag :=
  match commonNames.find? fun (word, _) => commonStart ++ word = name with
  | some (_, tag) => tag
  | none => unknown

def isOfCollection : Tag → Bool
  | sequence => true
  | mapping => true
  | set => true
  | orderedMapping => true
  | pairs => true
  | _ => false

/-! ### Tags by form -/

def truthWords : List (String × Bool) :=
  [("yes", true), ("true", true), ("on", true), ("no", false), ("false", false), ("off", false)]

/-- The ways to write a word: in small letters, with a capital, or in capitals. -/
def spellings (word : String) : List String :=
  [word, word.capitalize, word.map Char.toUpper]

def isTruth (s : String) : Bool :=
  truthWords.any fun (word, _) => (spellings word).contains s

def isNull (s : String) : Bool :=
  s = "" || s = "~" || (spellings "null").contains s

/-- The text without its sign, and whether that is a minus. -/
def splitSign : List Char → Bool × List Char
  | '-' :: cs => (true, cs)
  | '+' :: cs => (false, cs)
  | cs => (false, cs)

def hexValue? (c : Char) : Option Nat :=
  if isDigit c then some (c.toNat - '0'.toNat)
  else if 'a' ≤ c && c ≤ 'f' then some (c.toNat - 'a'.toNat + 10)
  else if 'A' ≤ c && c ≤ 'F' then some (c.toNat - 'A'.toNat + 10)
  else none

/-- Whether a text consists of digits below the base and of underscores. -/
def isRun (base : Nat) (cs : List Char) : Bool :=
  cs.all fun c => c = '_' || (hexValue? c).any (· < base)

/-- Whether a text is a run in base ten that starts with a digit. -/
def isDecimalRun (cs : List Char) : Bool :=
  cs.head?.any isDigit && isRun 10 cs

def parts [DecidableEq α] (separator : α) : List α → List (List α)
  | [] => [[]]
  | x :: xs =>
    match parts separator xs with
    | [] => [[x]]
    | part :: rest => if x = separator then [] :: part :: rest else (x :: part) :: rest

/-- Whether a part after a colon is a number below sixty. -/
def isSixtieth : List Char → Bool
  | [a] => isDigit a
  | [a, b] => '0' ≤ a && a ≤ '5' && isDigit b
  | _ => false

/-- Whether an unsigned text is an integer in base two, eight, ten, sixteen or sixty. -/
def isUnsignedInteger : List Char → Bool
  | ['0'] => true
  | '0' :: 'b' :: cs => !cs.isEmpty && isRun 2 cs
  | '0' :: 'x' :: cs => !cs.isEmpty && isRun 16 cs
  | '0' :: cs => isRun 8 cs
  | cs =>
    match parts ':' cs with
    | whole :: sixtieths => isDecimalRun whole && sixtieths.all isSixtieth
    | [] => false

def isInteger (cs : List Char) : Bool :=
  isUnsignedInteger (splitSign cs).2

/-- Whether a text is empty or a letter E, a sign and digits. -/
def isExponent : List Char → Bool
  | [] => true
  | e :: sign :: digits =>
    (e = 'e' || e = 'E') && (sign = '-' || sign = '+') && !digits.isEmpty && digits.all isDigit
  | _ => false

def notFiniteWords : List String :=
  (["", "+", "-"].flatMap fun sign => [".inf", ".Inf", ".INF"].map (sign ++ ·)) ++ [".nan", ".NaN", ".NAN"]

/-- Whether a text is a number with a point. Before the point there may be places of base sixty, and then there
is no exponent; without any digit before the point there is no sign. -/
def isReal (cs : List Char) : Bool :=
  let unsigned := (splitSign cs).2
  let whole := unsigned.takeWhile (· ≠ '.')
  match unsigned.drop whole.length with
  | [] => false
  | _ :: fraction =>
    let run := fraction.takeWhile fun c => isDigit c || c = '_'
    let rest := fraction.drop run.length
    match parts ':' whole with
    | [] => false
    | [first] =>
      isExponent rest
        && if first.isEmpty then run.head?.any isDigit && unsigned.length = cs.length else isDecimalRun first
    | first :: sixtieths => isDecimalRun first && sixtieths.all isSixtieth && rest.isEmpty

/-- The marks of other nodes. They suggest a tag of their own, which no value has. -/
def markWords : List String := ["!", "&", "*"]

/-- The tag that a form suggests. -/
def ofExactForm (cs : List Char) : Tag :=
  let s := String.ofList cs
  if isTruth s then truth
  else if isReal cs || notFiniteWords.contains s then real
  else if isInteger cs then integer
  else if s = "<<" then merge
  else if isNull s then null
  else if Timestamp.isForm cs then timestamp
  else if s = "=" then default
  else if markWords.contains s then unknown
  else text

/-- The tag that the form of a scalar suggests. A line feed at the end does not belong to the form, unless there
is nothing else. -/
def ofForm (cs : List Char) : Tag :=
  if cs = ['\n'] then text else ofExactForm (Text.withoutFinalLineFeed cs)

end Tag

end SchemaScribe.Document.Yaml
