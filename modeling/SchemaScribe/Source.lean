import SchemaScribe.Text.Blank
import SchemaScribe.Text.Search

/-!
Pieces of generated source: calls, keyword arguments, literals, attributes, comments and docstrings.
-/

namespace SchemaScribe.Source

open Text

structure Keyword where
  name : String
  value : String
  deriving Repr, DecidableEq

def indent : String := "    "

/-- A text between double quotes, as it is. -/
def literal (s : String) : String :=
  s!"\"{s}\""

namespace Keyword

def render (k : Keyword) : String :=
  s!"{k.name}={k.value}"

end Keyword

/-- A call with positional arguments before keyword arguments. -/
def call (func : String) (args : List String) (keywords : List Keyword) : String :=
  func ++ "(" ++ ", ".intercalate (args ++ keywords.map Keyword.render) ++ ")"

def mappedAttribute (name type value : String) : String :=
  s!"{indent}{name}: Mapped[{type}] = {value}"

/-- The lines of a comment: its text is trimmed as a whole, and each line is marked. -/
def commentLines (comment : Option String) (indentation : String) : List String :=
  match comment with
  | none => []
  | some comment =>
    let body := trimBy isBlank (replaceLineBreaks '\n' comment.toList)
    if body.isEmpty then []
    else (splitOn '\n' body).map fun line => indentation ++ "# " ++ String.ofList line

/-- A backslash before each run of three double quotes. -/
def escapeTripleQuotes : List Char → List Char
  | '"' :: '"' :: '"' :: cs => '\\' :: '"' :: '"' :: '"' :: escapeTripleQuotes cs
  | c :: cs => c :: escapeTripleQuotes cs
  | [] => []

/-- The text of a docstring: on one line, with triple quotes escaped. -/
def docstring (comment : Option String) : Option String :=
  match comment with
  | none => none
  | some "" => none
  | some comment => some (String.ofList (escapeTripleQuotes (replaceLineBreaks ' ' comment.toList)))

end SchemaScribe.Source
