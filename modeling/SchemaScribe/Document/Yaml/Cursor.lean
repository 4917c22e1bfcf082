/-!
Places in a YAML text, with the classes of characters that its grammar tells apart.
-/

namespace SchemaScribe.Document.Yaml

def isBreak (c : Char) : Bool :=
  c = '\n' || c = '\u0085' || c = '\u2028' || c = '\u2029'

/-- The line breaks of ASCII become line feeds, the others are kept. -/
def breakChar (c : Char) : Char :=
  if c = '\u0085' then '\n' else c

def isBlank (c : Char) : Bool :=
  c = ' ' || c = '\t'

def isGap (c : Char) : Bool :=
  isBlank c || isBreak c

def isDigit (c : Char) : Bool :=
  '0' ≤ c && c ≤ '9'

/-- The characters of names: ASCII letters and digits, hyphens and underscores. -/
def isNameChar (c : Char) : Bool :=
  isDigit c || ('a' ≤ c && c ≤ 'z') || ('A' ≤ c && c ≤ 'Z') || c = '-' || c = '_'

/-- Whether a text has ended or starts with a character of a class. -/
def endsOr (p : Char → Bool) (cs : List Char) : Bool :=
  cs.head?.all p

/-- Whether a text has ended or starts with a blank or a line break. -/
def startsWithGap (cs : List Char) : Bool :=
  endsOr isGap cs

/-- A place in a text of `size` characters: how many characters and lines are behind it, its column, and the text
ahead. -/
structure Cursor where
  size : Nat
  offset : Nat
  line : Nat
  column : Nat
  rest : List Char

namespace Cursor

def start (cs : List Char) : Cursor :=
  ⟨cs.length, 0, 0, 0, cs⟩

def remaining (c : Cursor) : Nat :=
  c.size - c.offset

/-- The place behind the next character. A byte order mark takes no column. -/
def advance (c : Cursor) : Cursor :=
  match c.rest with
  | [] => c
  | x :: xs =>
    if isBreak x then ⟨c.size, c.offset + 1, c.line + 1, 0, xs⟩
    else if x = '\ufeff' then ⟨c.size, c.offset + 1, c.line, c.column, xs⟩
    else ⟨c.size, c.offset + 1, c.line, c.column + 1, xs⟩

def advanceBy : Nat → Cursor → Cursor
  | 0, c => c
  | n + 1, c => advanceBy n c.advance

def skipWhile (p : Char → Bool) (c : Cursor) : Cursor :=
  c.advanceBy (c.rest.takeWhile p).length

/-- Whether a line starts here with three times a character, as documents are begun and ended. -/
def isAtMarkOf (x : Char) (c : Cursor) : Bool :=
  c.column = 0 && c.rest.take 3 = [x, x, x] && startsWithGap (c.rest.drop 3)

/-- Whether a line with the mark of a document's start or end begins here. -/
def isAtMark (c : Cursor) : Bool :=
  c.isAtMarkOf '-' || c.isAtMarkOf '.'

/-- Whether a character stands here and a gap follows it. -/
def isAtSingle (x : Char) (c : Cursor) : Bool :=
  c.rest.head? = some x && startsWithGap (c.rest.drop 1)

/-- The place at the end of the line, behind spaces and a comment, if nothing else stands there. -/
def endOfLine? (c : Cursor) : Option Cursor :=
  let c := c.skipWhile (· = ' ')
  let c := if c.rest.head? = some '#' then c.skipWhile (!isBreak ·) else c
  if endsOr isBreak c.rest then some c.advance else none

end Cursor

end SchemaScribe.Document.Yaml
