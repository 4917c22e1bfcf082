import SchemaScribe.Document.IntegerText
import SchemaScribe.Document.Value
import SchemaScribe.LooseText
import SchemaScribe.Text.Utf8

/-!
Checking values against an expected shape. A check gives either the checked value or all problems that it
found, in the order in which the shape declares its parts; each problem has the path to the faulty place.
-/

namespace SchemaScribe.Document

/-- One step into a value: an entry by the key under which it was found, or an item by its index. -/
inductive Step where
  | key (name : String)
  | item (index : Nat)
  deriving Repr, DecidableEq

inductive Mismatch where
  | missing
  | notText
  | notUnicode
  | tooShort
  | notObject (kind : String)
  | notList
  | notOneOf (choices : List String)
  | notBoolean
  | unreadableBoolean
  | notInteger
  | unreadableInteger
  | fractionalInteger
  | integerTooLarge
  | notFinite
  | blankCascade
  | notPermitted
  deriving Repr, DecidableEq

structure Problem where
  path : List Step
  mismatch : Mismatch
  deriving Repr, DecidableEq

inductive Checked (α : Type) where
  | valid (value : α)
  | invalid (problems : List Problem)
  deriving Repr

namespace Step

def render : Step → String
  | key name => name
  | item index => toString index

end Step

namespace Mismatch

/-- The choices between single quotes, the last one after an "or". -/
def renderChoices : List String → String
  | [] => ""
  | [choice] => s!"'{choice}'"
  | [choice, last] => s!"'{choice}' or '{last}'"
  | choice :: choices => s!"'{choice}', " ++ renderChoices choices

def message : Mismatch → String
  | missing => "Field required"
  | notText => "Input should be a valid string"
  | notUnicode => "Input should be a valid string, unable to parse raw data as a unicode string"
  | tooShort => "String should have at least 1 character"
  | notObject kind => s!"Input should be a valid dictionary or instance of {kind}"
  | notList => "Input should be a valid list"
  | notOneOf choices => "Input should be " ++ renderChoices choices
  | notBoolean => "Input should be a valid boolean"
  | unreadableBoolean => "Input should be a valid boolean, unable to interpret input"
  | notInteger => "Input should be a valid integer"
  | unreadableInteger => "Input should be a valid integer, unable to parse string as an integer"
  | fractionalInteger => "Input should be a valid integer, got a number with a fractional part"
  | integerTooLarge => "Unable to parse input string as an integer, exceeded maximum size"
  | notFinite => "Input should be a finite number"
  | blankCascade => "Value error, Cascade policy cannot be empty or just whitespace."
  | notPermitted => "Extra inputs are not permitted"

end Mismatch

namespace Problem

def under (step : Step) (problem : Problem) : Problem :=
  { problem with path := step :: problem.path }

def render (problem : Problem) : String :=
  " -> ".intercalate (problem.path.map Step.render) ++ ": " ++ problem.mismatch.message

def renderAll (problems : List Problem) : String :=
  "; ".intercalate (problems.map render)

end Problem

namespace Checked

/-- A problem with the value as a whole. -/
def fail (mismatch : Mismatch) : Checked α :=
  invalid [⟨[], mismatch⟩]

def map (f : α → β) : Checked α → Checked β
  | valid a => valid (f a)
  | invalid problems => invalid problems

/-- Both checks are made, and their problems are joined. -/
def both (f : Checked (α → β)) (a : Checked α) : Checked β :=
  match f, a with
  | valid f, valid a => valid (f a)
  | valid _, invalid problems => invalid problems
  | invalid problems, valid _ => invalid problems
  | invalid problems, invalid more => invalid (problems ++ more)

/-- A further check of a value that passed the first one. -/
def andThen (a : Checked α) (check : α → Checked β) : Checked β :=
  match a with
  | valid a => check a
  | invalid problems => invalid problems

/-- Puts the problems of a part below the step that leads to it. -/
def under (step : Step) : Checked α → Checked α
  | valid a => valid a
  | invalid problems => invalid (problems.map (Problem.under step))

def toExcept : Checked α → Except (List Problem) α
  | valid a => .ok a
  | invalid problems => .error problems

instance : Applicative Checked where
  pure := valid
  seq f a := both f (a ())

end Checked

namespace Check

/-- The text that octets hold. -/
def ofOctets? (octets : List UInt8) : Option String :=
  match Text.decodeUtf8 octets with
  | .ok cs => some (String.ofList cs)
  | .error _ => none

def looseText : Value → Checked LooseText
  | .text s => .valid (.proper s)
  | .brokenText t => .valid (.broken t)
  | .octets octets => ((ofOctets? octets).map fun s => Checked.valid (.proper s)).getD (.fail .notUnicode)
  | _ => .fail .notText

/-- A text that is only given out. -/
def text (v : Value) : Checked String :=
  (looseText v).map LooseText.shown

@[simp]
theorem text_text (s : String) : text (.text s) = .valid s :=
  rfl

def nonEmptyText (v : Value) : Checked String :=
  match v with
  | .brokenText _ => .fail .notUnicode
  | v => (text v).andThen fun s => if s = "" then .fail .tooShort else .valid s

/-- Null stands for an absent value. -/
def optional (check : Value → Checked α) : Value → Checked (Option α)
  | .null => .valid none
  | v => (check v).map some

/-- One of the listed words, by exact spelling. -/
def choice (choices : List (String × α)) (v : Value) : Checked α :=
  let word? :=
    match v with
    | .text s => some s
    | .octets octets => ofOctets? octets
    | _ => none
  match v, word?.bind (List.lookup · choices) with
  | .brokenText _, _ => .fail .notUnicode
  | _, some a => .valid a
  | _, none => .fail (.notOneOf (choices.map (·.1)))

def booleanWords : List (String × Bool) :=
  [("0", false), ("off", false), ("f", false), ("false", false), ("n", false), ("no", false),
    ("1", true), ("on", true), ("t", true), ("true", true), ("y", true), ("yes", true)]

/-- The first integer above those of 64 bits. -/
def wordLimit : Int := 0x8000000000000000

/-- Integers of 64 bits are the ones that are looked at as truth values. -/
def isWord64 (n : Int) : Bool :=
  -wordLimit ≤ n && n < wordLimit

def booleanOfInteger (n : Int) : Checked Bool :=
  if n = 0 then .valid false else if n = 1 then .valid true else .fail .unreadableBoolean

def booleanOfText (s : String) : Checked Bool :=
  match booleanWords.lookup (s.map Char.toLower) with
  | some b => .valid b
  | none => .fail .unreadableBoolean

/-- A truth value, one of the words for it in any ASCII letter case, or one of the numbers 0 and 1. -/
def boolean : Value → Checked Bool
  | .bool b => .valid b
  | .text s => booleanOfText s
  | .octets octets => ((ofOctets? octets).map booleanOfText).getD (.fail .unreadableBoolean)
  | .brokenText _ => .fail .notUnicode
  | .int n => if isWord64 n then booleanOfInteger n else .fail .notBoolean
  | .real (.whole n) =>
    if -wordLimit < n && n < wordLimit then booleanOfInteger n else .fail .notBoolean
  | _ => .fail .notBoolean

def integerOfText (s : String) : Checked Int :=
  match IntegerText.read s.toList with
  | .ok n => .valid n
  | .error .unreadable => .fail .unreadableInteger
  | .error .tooLong => .fail .integerTooLarge

def integer : Value → Checked Int
  | .int n => .valid n
  | .bool b => .valid (if b then 1 else 0)
  | .text s => integerOfText s
  | .octets octets => ((ofOctets? octets).map integerOfText).getD (.fail .unreadableInteger)
  | .brokenText _ => .fail .notUnicode
  | .real (.whole n) => if -wordLimit < n && n < wordLimit then .valid n else .fail .integerTooLarge
  | .real .fractional => .fail .fractionalInteger
  | .real .notFinite => .fail .notFinite
  | _ => .fail .notInteger

/-- Checks the items from `index` on. -/
def itemsFrom (check : Value → Checked α) (index : Nat) : List Value → Checked (List α)
  | [] => .valid []
  | v :: vs => List.cons <$> (check v).under (.item index) <*> itemsFrom check (index + 1) vs

def listOf (check : Value → Checked α) : Value → Checked (List α)
  | .list items => itemsFrom check 0 items
  | .set items => itemsFrom check 0 items
  | _ => .fail .notList

/-- An object, called `kind` in messages, whose entries pass a check. -/
def objectOf (kind : String) (check : List (String × Value) → Checked α) : Value → Checked α
  | .object entries => check entries
  | _ => .fail (.notObject kind)

end Check

/-- A key of a document with its two spellings. Messages use the first, and it wins if both are there. -/
structure Key where
  name : String
  otherName : String
  deriving Repr, DecidableEq

namespace Key

/-- A key that is spelled in one way only. -/
def plain (name : String) : Key :=
  ⟨name, name⟩

/-- The spelling under which an object has the key, and the value there. -/
def find? (k : Key) (entries : List (String × Value)) : Option (String × Value) :=
  match entries.lookup k.name with
  | some v => some (k.name, v)
  | none => (entries.lookup k.otherName).map (k.otherName, ·)

def required (k : Key) (check : Value → Checked α) (entries : List (String × Value)) : Checked α :=
  match k.find? entries with
  | some (name, v) => (check v).under (.key name)
  | none => (Checked.fail .missing).under (.key k.name)

/-- The checked value of a key, or `default` where the key is absent. -/
def withDefault (k : Key) (default : α) (check : Value → Checked α) (entries : List (String × Value)) :
    Checked α :=
  match k.find? entries with
  | some (name, v) => (check v).under (.key name)
  | none => .valid default

end Key

end SchemaScribe.Document
