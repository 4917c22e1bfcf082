import SchemaScribe.Text.Search

/-!
The switches of the command line: how they are spelled, which of them take a value, and how their
abbreviations are found.
-/

namespace SchemaScribe.CommandLine

inductive Switch where
  | help
  | config
  | outputFile
  | cascade
  | format
  | verbose
  | noColour
  deriving Repr, DecidableEq

namespace Switch

def all : List Switch :=
  [help, config, outputFile, cascade, format, verbose, noColour]

/-- The letter after a single dash, if a switch has one. -/
def letter? : Switch → Option Char
  | help => some 'h'
  | config => some 'c'
  | outputFile => some 'o'
  | verbose => some 'v'
  | cascade => none
  | format => none
  | noColour => none

def word : Switch → String
  | help => "help"
  | config => "config"
  | outputFile => "output-file"
  | cascade => "cascade"
  | format => "format"
  | verbose => "verbose"
  | noColour => "no-color"

def takesValue : Switch → Bool
  | config => true
  | outputFile => true
  | cascade => true
  | help => false
  | format => false
  | verbose => false
  | noColour => false

def long (s : Switch) : String :=
  "--" ++ s.word

def short? (s : Switch) : Option String :=
  s.letter?.map fun c => String.ofList ['-', c]

/-- All spellings, the short one first, as messages name a switch. -/
def label (s : Switch) : String :=
  "/".intercalate (s.short?.toList ++ [s.long])

def ofLetter? (c : Char) : Option Switch :=
  all.find? (·.letter? = some c)

def ofLong? (spelling : String) : Option Switch :=
  all.find? (·.long = spelling)

/-- The switches whose long spelling starts with a text. -/
def abbreviatedBy (cs : List Char) : List Switch :=
  all.filter fun s => Text.startsWith cs s.long.toList

end Switch

end SchemaScribe.CommandLine
