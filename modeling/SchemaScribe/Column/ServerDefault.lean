import SchemaScribe.Source
import SchemaScribe.Text.Case
import SchemaScribe.Text.DecimalDigit

/-!
Server defaults: the SQL text for a default as it was typed. The current time has one name whatever the
spelling; a text between double quotes is put between single ones; everything else is passed on. The SQL
text stands in a double-quoted literal, so quotes, backslashes and line ends are escaped.
-/

namespace SchemaScribe.ServerDefault

open Text

inductive Form where
  | currentTimestamp
  | sequenceCall
  | numeric
  | quotedText
  | expression
  deriving Repr, DecidableEq

/-- Whether `cs` is `word` in any letter case. -/
def isWord (word cs : List Char) : Bool :=
  dropWord? foldsTo word cs = some []

/-- Digits, and possibly a point with digits after it. -/
def isNumeric (cs : List Char) : Bool :=
  let whole := cs.takeWhile isDecimalDigit
  match cs.dropWhile isDecimalDigit with
  | [] => !whole.isEmpty
  | '.' :: fraction => !whole.isEmpty && !fraction.isEmpty && fraction.all isDecimalDigit
  | _ => false

/-- Whether a text of two or more characters starts and ends with the same quote. -/
def isQuoted (cs : List Char) : Bool :=
  2 ≤ cs.length
    && ((cs.head? = some '\'' && cs.getLast? = some '\'')
      || (cs.head? = some '"' && cs.getLast? = some '"'))

def form (value : List Char) : Form :=
  if isWord "now()".toList value || containsBy foldsTo "current_timestamp".toList value then
    .currentTimestamp
  else if (dropWord? foldsTo "nextval(".toList value).isSome then .sequenceCall
  else if isNumeric value then .numeric
  else if isQuoted value then .quotedText
  else .expression

def sqlText (value : List Char) : List Char :=
  match form value with
  | .currentTimestamp => "CURRENT_TIMESTAMP".toList
  | .quotedText => '\'' :: (value.drop 1).dropLast ++ ['\'']
  | .sequenceCall | .numeric | .expression => value

def escapeChar (c : Char) : List Char :=
  if c = '\\' || c = '"' then ['\\', c]
  else if c = '\n' then ['\\', 'n']
  else if c = '\r' then ['\\', 'r']
  else [c]

def escape (cs : List Char) : List Char :=
  cs.flatMap escapeChar

def expression (default : String) : String :=
  let value := trimBy isBlank default.toList
  Source.call "sa.text" [Source.literal (String.ofList (escape (sqlText value)))] []

end SchemaScribe.ServerDefault
