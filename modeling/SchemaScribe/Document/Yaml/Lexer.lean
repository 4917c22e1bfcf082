import SchemaScribe.Document.Yaml.Property

/-!
Cutting a YAML text into tokens. Columns of blocks are kept on a stack, and their ends become tokens as soon as
a line starts further left. A token that may turn out to be a key is remembered by its number for every level
of flow collections; when a colon follows in time, the tokens that say so are put in front of it.
-/

namespace SchemaScribe.Document.Yaml

/-- A token that may be a key: its number, its place, and whether it has to be one. -/
structure KeyMark where
  number : Nat
  isRequired : Bool
  place : Cursor

/-- The longest distance between the start of a key and its colon. -/
def KeyMark.maxLength : Nat := 1024

/-- Whether the colon of a key can still follow at a place. -/
def KeyMark.isOpen (place : Cursor) (mark : KeyMark) : Bool :=
  mark.place.line = place.line && place.offset - mark.place.offset ≤ maxLength

/-- How far a text has been cut into tokens. -/
structure Lexer where
  place : Cursor
  /-- The column of the innermost block, and those of the blocks around it. -/
  indent : Int
  outerIndents : List Int
  /-- How many flow collections are open; below zero where more were closed. -/
  flowLevel : Int
  /-- Whether the next token may be a key. -/
  allowsKey : Bool
  marks : List (Int × KeyMark)
  /-- The tokens so far, the latest first, and how many they are. -/
  tokens : List Token
  count : Nat
  hasEnded : Bool

namespace Lexer

def start (cs : List Char) : Lexer :=
  let place := Cursor.start cs
  { place := if cs.head? = some '\ufeff' then place.advance else place
    indent := -1
    outerIndents := []
    flowLevel := 0
    allowsKey := true
    marks := []
    tokens := []
    count := 0
    hasEnded := false }

def isInFlow (s : Lexer) : Bool :=
  s.flowLevel ≠ 0

def emit (token : Token) (s : Lexer) : Lexer :=
  { s with tokens := token :: s.tokens, count := s.count + 1 }

/-- Puts a token in front of the one with a number. -/
def insert (number : Nat) (token : Token) (s : Lexer) : Lexer :=
  let later := s.count - number
  { s with tokens := s.tokens.take later ++ token :: s.tokens.drop later, count := s.count + 1 }

/-- The token of the next `width` characters. -/
def take (width : Nat) (token : Token) (s : Lexer) : Lexer :=
  { s with place := s.place.advanceBy width }.emit token

/-! ### Gaps and blocks -/

def skipGapsWithin : Nat → Lexer → Lexer
  | 0, s => s
  | fuel + 1, s =>
    let c := s.place.skipWhile (· = ' ')
    let c := if c.rest.head? = some '#' then c.skipWhile (!isBreak ·) else c
    if c.rest.head?.any isBreak then
      skipGapsWithin fuel { s with place := c.advance, allowsKey := s.allowsKey || !s.isInFlow }
    else { s with place := c }

/-- Goes on behind spaces, comments and line breaks. Outside of flow collections a key may start a line. -/
def skipGaps (s : Lexer) : Lexer :=
  skipGapsWithin (s.place.remaining + 1) s

/-- Closes the blocks that are indented by more than a column. -/
def closeBlocks (column : Int) (s : Lexer) : Lexer :=
  if s.isInFlow then s
  else
    let closed := (s.indent :: s.outerIndents).takeWhile (column < ·)
    match (s.indent :: s.outerIndents).drop closed.length with
    | [] => s
    | indent :: outer =>
      { s with
        indent := indent
        outerIndents := outer
        tokens := List.replicate closed.length .blockEnd ++ s.tokens
        count := s.count + closed.length }

/-- Whether a block that starts in a column is a new one. -/
def opensBlock (column : Nat) (s : Lexer) : Bool :=
  s.indent < column

def pushIndent (column : Nat) (s : Lexer) : Lexer :=
  { s with indent := column, outerIndents := s.indent :: s.outerIndents }

/-- Opens a block at this place if it is a new one. -/
def openBlock (token : Token) (s : Lexer) : Lexer :=
  if s.opensBlock s.place.column then (s.pushIndent s.place.column).emit token else s

/-! ### Keys -/

/-- The marks that are still open. One that is not must not have been required. -/
def dropStale (s : Lexer) : Except Fault Lexer :=
  if s.marks.any fun (_, mark) => mark.isRequired && !mark.isOpen s.place then .error .malformed
  else .ok { s with marks := s.marks.filter fun (_, mark) => mark.isOpen s.place }

def mark? (s : Lexer) : Option KeyMark :=
  s.marks.lookup s.flowLevel

def withoutMark (s : Lexer) : Lexer :=
  { s with marks := s.marks.filter fun (level, _) => level ≠ s.flowLevel }

/-- Gives up the key of this level, which must not be required. -/
def dropMark (s : Lexer) : Except Fault Lexer :=
  if s.mark?.any (·.isRequired) then .error .malformed else .ok s.withoutMark

/-- Remembers that the next token may be a key. In a block it has to be one if it starts in its column. -/
def saveMark (s : Lexer) : Except Fault Lexer :=
  if s.allowsKey then do
    let isRequired := !s.isInFlow && s.indent = s.place.column
    let s ← s.dropMark
    return { s with marks := (s.flowLevel, ⟨s.count, isRequired, s.place⟩) :: s.marks }
  else .ok s

def allowKey (allowed : Bool) (s : Lexer) : Lexer :=
  { s with allowsKey := allowed }

/-- Fails in a block where no key may start. -/
def requireKeyPlace (s : Lexer) : Except Fault Unit :=
  if !s.isInFlow && !s.allowsKey then .error .malformed else .ok ()

/-! ### Tokens -/

def readEnd (s : Lexer) : Except Fault Lexer := do
  let s ← (s.closeBlocks (-1)).dropMark
  return { s with allowsKey := false, marks := [], hasEnded := true }.emit .streamEnd

/-- The start or the end of a document, or a directive; the blocks before it have ended. -/
def leaveDocument (s : Lexer) : Except Fault Lexer := do
  return (← (s.closeBlocks (-1)).dropMark).allowKey false

def readFlowStart (token : Token) (s : Lexer) : Except Fault Lexer := do
  let s ← s.saveMark
  return ({ s with flowLevel := s.flowLevel + 1 }.allowKey true).take 1 token

def readFlowEnd (token : Token) (s : Lexer) : Except Fault Lexer := do
  let s ← s.dropMark
  return ({ s with flowLevel := s.flowLevel - 1 }.allowKey false).take 1 token

def readComma (s : Lexer) : Except Fault Lexer := do
  return ((← s.dropMark).allowKey true).take 1 .comma

def readDash (s : Lexer) : Except Fault Lexer := do
  s.requireKeyPlace
  let s := if s.isInFlow then s else s.openBlock .blockSequence
  return (← (s.allowKey true).dropMark).take 1 .dash

def readKey (s : Lexer) : Except Fault Lexer := do
  s.requireKeyPlace
  let s := if s.isInFlow then s else s.openBlock .blockMapping
  return (← (s.allowKey !s.isInFlow).dropMark).take 1 .key

/-- Says that the marked token is a key, which may be the first one of a block mapping. -/
def confirmKey (mark : KeyMark) (s : Lexer) : Lexer :=
  let s := (s.withoutMark.insert mark.number .key).allowKey false
  if !s.isInFlow && s.opensBlock mark.place.column then
    (s.pushIndent mark.place.column).insert mark.number .blockMapping
  else s

def readValue (s : Lexer) : Except Fault Lexer := do
  match s.mark? with
  | some mark => return (s.confirmKey mark).take 1 .value
  | none =>
    s.requireKeyPlace
    let s := if s.isInFlow then s else s.openBlock .blockMapping
    return (s.allowKey !s.isInFlow).take 1 .value

/-- A token that may be a key, as read from its place. -/
def readNode (reader : Cursor → Except Fault (Token × Cursor)) (s : Lexer) : Except Fault Lexer := do
  let s ← s.saveMark
  let (token, after) ← reader s.place
  return ({ s with place := after }.allowKey false).emit token

/-- A plain scalar. Where it has left its last line, a key may follow. -/
def readPlain (s : Lexer) : Except Fault Lexer := do
  let s ← s.saveMark
  let scalar := s.place.readPlain s.isInFlow s.indent
  return ({ s with place := scalar.after }.allowKey scalar.leftLine).emit
    (.scalar true (scalar.text.map Char.toNat))

def readBlockScalar (folded : Bool) (s : Lexer) : Except Fault Lexer := do
  let s ← (s.allowKey true).dropMark
  let (text, after) ← s.place.readBlockScalar folded s.indent
  return { s with place := after }.emit (.scalar false (text.map Char.toNat))

def readQuoted (quote : Char) : Lexer → Except Fault Lexer :=
  readNode fun c => (c.readQuoted quote).map fun (codes, after) => (.scalar false codes, after)

/-- The token whose first character is the next one. -/
def readToken (s : Lexer) : Except Fault Lexer :=
  let c := s.place
  if c.isAtMarkOf '-' then (leaveDocument s).map (take 3 .documentStart)
  else if c.isAtMarkOf '.' then (leaveDocument s).map (take 3 .documentEnd)
  else
    match c.rest with
    | [] => s.readEnd
    | x :: _ =>
      if x = '%' && c.column = 0 then do
        let s ← s.leaveDocument
        let (token, after) ← s.place.readDirective
        return { s with place := after }.emit token
      else if x = '[' then s.readFlowStart .flowSequence
      else if x = '{' then s.readFlowStart .flowMapping
      else if x = ']' then s.readFlowEnd .flowSequenceEnd
      else if x = '}' then s.readFlowEnd .flowMappingEnd
      else if x = ',' then s.readComma
      else if c.isAtSingle '-' then s.readDash
      else if c.isAtSingle '?' || (x = '?' && s.isInFlow) then s.readKey
      else if c.isAtSingle ':' || (x = ':' && s.isInFlow) then s.readValue
      else if x = '*' then s.readNode fun c => c.readAnchor.map fun (name, after) => (.alias name, after)
      else if x = '&' then s.readNode fun c => c.readAnchor.map fun (name, after) => (.anchor name, after)
      else if x = '!' then s.readNode Cursor.readTag
      else if x = '|' && !s.isInFlow then s.readBlockScalar false
      else if x = '>' && !s.isInFlow then s.readBlockScalar true
      else if x = '\'' || x = '"' then s.readQuoted x
      else if Cursor.startsPlain s.isInFlow c.rest then s.readPlain
      else .error .malformed

def next (s : Lexer) : Except Fault Lexer := do
  let s ← s.skipGaps.dropStale
  (s.closeBlocks s.place.column).readToken

/-! ### Whole texts -/

/-- The tokens in front of the first one that may still turn out to be a key. -/
def settled (s : Lexer) : List Token :=
  let numbers := (s.marks.filter fun (_, mark) => mark.isOpen s.place).map (·.2.number)
  s.tokens.reverse.take (numbers.foldl min s.count)

def run : Nat → Lexer → List Token × Option Fault
  | 0, s => (s.settled, some .malformed)
  | fuel + 1, s =>
    if s.hasEnded then (s.tokens.reverse, none)
    else
      match s.next with
      | .ok s => run fuel s
      | .error fault => (s.settled, some fault)

end Lexer

/-- The tokens of a text, and the fault where they end early. Every token but the last takes a character. -/
def tokensOf (cs : List Char) : List Token × Option Fault :=
  (Lexer.start cs).run (cs.length + 2)

end SchemaScribe.Document.Yaml
