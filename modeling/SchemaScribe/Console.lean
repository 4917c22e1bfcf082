import SchemaScribe.Text.Case

/-!
Console messages. A record is laid out as text, and on a terminal it is coloured by its level or by the mark
that it starts with.
-/

namespace SchemaScribe.Console

open Text

inductive Level where
  | unset
  | debug
  | info
  | warning
  | error
  | critical
  deriving Repr, DecidableEq

structure Record where
  level : Level
  message : String
  deriving Repr, DecidableEq

namespace Level

def all : List Level :=
  [unset, debug, info, warning, error, critical]

def name : Level → String
  | unset => "NOTSET"
  | debug => "DEBUG"
  | info => "INFO"
  | warning => "WARNING"
  | error => "ERROR"
  | critical => "CRITICAL"

/-- Further names of levels. -/
def otherNames : List (String × Level) :=
  [("WARN", warning), ("FATAL", critical)]

def ofName? (name : String) : Option Level :=
  (all.find? (·.name = name)).or (otherNames.lookup name)

def rank : Level → Nat
  | unset => 0
  | debug => 10
  | info => 20
  | warning => 30
  | error => 40
  | critical => 50

def colour : Level → String
  | unset => ""
  | debug => "\x1b[36m"
  | info => "\x1b[32m"
  | warning => "\x1b[33m"
  | error => "\x1b[31m"
  | critical => "\x1b[35m"

end Level

/-! ### Layouts -/

/-- A part of a layout: a character as it is, or a field of the record, filled up with blanks to a width on
its right or on its left. -/
inductive Piece where
  | char (c : Char)
  | field (name : String) (width : Nat) (padRight : Bool)
  deriving Repr, DecidableEq

/-- The field whose name starts the text, and how many characters it takes: a name closed by a bracket, a
width with an optional minus sign, and an "s". -/
def fieldAt? (cs : List Char) : Option (Piece × Nat) :=
  let name := cs.takeWhile (· ≠ ')')
  let afterName := cs.drop (name.length + 1)
  let padRight := afterName.head? = some '-'
  let afterSign := if padRight then afterName.drop 1 else afterName
  let digits := afterSign.takeWhile Char.isDigit
  if afterSign.drop digits.length |>.head? |> (· = some 's') then
    let width := digits.foldl (fun n c => 10 * n + (c.toNat - '0'.toNat)) 0
    let taken := name.length + 1 + (if padRight then 1 else 0) + digits.length + 1
    some (.field (String.ofList name) width padRight, taken)
  else none

/-- The pieces of a layout. `skip` counts the characters that belong to the field read last. -/
def piecesFrom (skip : Nat) : List Char → List Piece
  | [] => []
  | c :: cs =>
    match skip with
    | skip + 1 => piecesFrom skip cs
    | 0 =>
      match c, cs with
      | '%', '%' :: _ => .char '%' :: piecesFrom 1 cs
      | '%', '(' :: rest =>
        match fieldAt? rest with
        | some (piece, taken) => piece :: piecesFrom (taken + 1) cs
        | none => .char '%' :: piecesFrom 0 cs
      | _, _ => .char c :: piecesFrom 0 cs

def layout (format : String) : List Piece :=
  piecesFrom 0 format.toList

def defaultFormat : String := "%(levelname)s: %(message)s"

def padded (width : Nat) (padRight : Bool) (s : String) : String :=
  let blanks := String.ofList (List.replicate (width - s.length) ' ')
  if padRight then s ++ blanks else blanks ++ s

/-- The text of a record that was written by `writer`. -/
def Piece.render (writer : String) (r : Record) : Piece → String
  | char c => c.toString
  | field name width padRight =>
    padded width padRight
      (if name = "levelname" then r.level.name
      else if name = "message" then r.message
      else if name = "name" then writer
      else "")

def layOut (pieces : List Piece) (writer : String) (r : Record) : String :=
  String.join (pieces.map (Piece.render writer r))

/-! ### Colours -/

def successMark : String := "✓"

def progressMark : String := "→"

def highlightMark : String := "•"

def sectionRule : String := "".pushn '=' 60

def reset : String := "\x1b[0m"

def bold : String := "\x1b[1m"

def markColours : List (String × String) :=
  [(successMark, "\x1b[92m" ++ bold), (progressMark, "\x1b[94m"), (highlightMark, "\x1b[96m")]

/-- The colour of a record. Warnings and worse have that of their level; below them, the rules of sections
are bold and marks decide, and what is left is coloured only for debugging. -/
def colourOf? (r : Record) : Option String :=
  if Level.warning.rank ≤ r.level.rank then some r.level.colour
  else
    let message := trim r.message
    if message = sectionRule then some bold
    else
      match markColours.find? fun (mark, _) => mark.toList.isPrefixOf message.toList with
      | some (_, colour) => some colour
      | none => if r.level = .debug then some r.level.colour else none

def coloured (r : Record) (s : String) : String :=
  match colourOf? r with
  | some colour => colour ++ s ++ reset
  | none => s

/-- How records are shown: in which layout and whether in colours. -/
structure Formatter where
  pieces : List Piece
  writer : String
  useColours : Bool

def Formatter.format (f : Formatter) (r : Record) : String :=
  let s := layOut f.pieces f.writer r
  if f.useColours then coloured r s else s

/-! ### Settings -/

/-- What a console shows: records from a level on, in colours if they are asked for and it is a terminal. -/
structure Settings where
  level : Level := .info
  colours : Bool := true
  deriving Repr, DecidableEq

def Settings.formatter (settings : Settings) (isTerminal : Bool) : Formatter :=
  ⟨layout defaultFormat, "", settings.colours && isTerminal⟩

/-- The text that records add to a console, a line for each that is shown. -/
def Settings.show (settings : Settings) (isTerminal : Bool) (records : List Record) : String :=
  String.join ((records.filter fun r => settings.level.rank ≤ r.level.rank).map fun r =>
    (settings.formatter isTerminal).format r ++ "\n")

/-! ### Marked messages -/

def success (message : String) : Record :=
  ⟨.info, successMark ++ " " ++ message⟩

def progress (message : String) : Record :=
  ⟨.info, progressMark ++ " " ++ message⟩

def highlight (message : String) : Record :=
  ⟨.info, highlightMark ++ " " ++ message⟩

def sectionTitle (title : String) : List Record :=
  [⟨.info, sectionRule⟩, ⟨.info, "  " ++ upper title⟩, ⟨.info, sectionRule⟩]

end SchemaScribe.Console
