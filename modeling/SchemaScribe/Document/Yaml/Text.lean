import SchemaScribe.Document.Json
import SchemaScribe.Document.Yaml.Cursor
import SchemaScribe.Document.Yaml.Fault

/-!
The texts of YAML scalars: plain, quoted and block scalars. Line breaks within the first two are folded: a
single one becomes a space, and of several all but the first are kept.
-/

namespace SchemaScribe.Document.Yaml

namespace Cursor

/-! ### Plain scalars -/

def isFlowMark (c : Char) : Bool :=
  c = ',' || c = '[' || c = ']' || c = '{' || c = '}'

/-- Characters that start something else than a plain scalar. -/
def reservedStarts : List Char :=
  ['-', '?', ':', ',', '[', ']', '{', '}', '#', '&', '*', '!', '|', '>', '\'', '"', '%', '@', '\x60']

def startsPlain (flow : Bool) (cs : List Char) : Bool :=
  match cs with
  | [] => false
  | c :: rest =>
    if isGap c then false
    else if reservedStarts.contains c then
      !startsWithGap rest && (c = '-' || (!flow && (c = '?' || c = ':')))
    else true

/-- The part of a plain scalar up to a blank, a line break or a mark that ends it. -/
def plainChunk (flow : Bool) : List Char → List Char
  | [] => []
  | c :: cs =>
    if isGap c then []
    else if c = ':' && (startsWithGap cs || (flow && cs.head?.any isFlowMark)) then []
    else if flow && (isFlowMark c || c = '?') then []
    else c :: plainChunk flow cs

/-- What a line break and the empty lines after it are folded to. -/
def foldedBreaks (first : Char) (more : List Char) : List Char :=
  if breakChar first ≠ '\n' then breakChar first :: more
  else if more.isEmpty then [' ']
  else more

/-- The breaks of empty lines; none is given where the mark of a document follows. -/
def emptyLines : Nat → Cursor → Option (List Char) × Cursor
  | 0, c => (some [], c)
  | fuel + 1, c =>
    match c.rest with
    | ' ' :: _ => emptyLines fuel c.advance
    | x :: _ =>
      if isBreak x then
        if c.advance.isAtMark then (none, c.advance)
        else
          let (breaks, after) := emptyLines fuel c.advance
          (breaks.map (breakChar x :: ·), after)
      else (some [], c)
    | [] => (some [], c)

/-- The blanks between two chunks of a plain scalar. -/
structure PlainGap where
  /-- What the blanks are folded to; empty if no chunk can follow. -/
  text : List Char
  hasBreak : Bool
  after : Cursor

def plainGap (c : Cursor) : PlainGap :=
  let blanks := c.rest.takeWhile (· = ' ')
  let c := c.advanceBy blanks.length
  match c.rest with
  | x :: _ =>
    if isBreak x then
      if c.advance.isAtMark then ⟨[], true, c.advance⟩
      else
        match emptyLines (c.remaining + 1) c.advance with
        | (none, after) => ⟨[], true, after⟩
        | (some breaks, after) => ⟨foldedBreaks x breaks, true, after⟩
    else ⟨blanks, false, c⟩
  | [] => ⟨blanks, false, c⟩

/-- A plain scalar: its text, whether its last line has been left, and the place behind it. -/
structure PlainText where
  text : List Char
  leftLine : Bool
  after : Cursor

/-- The chunks from here on, where `leftLine` tells of the gap before them. -/
def plainWithin (flow : Bool) (indent : Int) (leftLine : Bool) : Nat → Cursor → PlainText
  | 0, c => ⟨[], leftLine, c⟩
  | fuel + 1, c =>
    let chunk := if c.rest.head? = some '#' then [] else plainChunk flow c.rest
    if chunk.isEmpty then ⟨[], leftLine, c⟩
    else
      let gap := plainGap (c.advanceBy chunk.length)
      if gap.text.isEmpty || gap.after.rest.head? = some '#'
          || (!flow && (gap.after.column : Int) ≤ indent) then
        ⟨chunk, gap.hasBreak, gap.after⟩
      else
        let more := plainWithin flow indent gap.hasBreak fuel gap.after
        { more with text := if more.text.isEmpty then chunk else chunk ++ gap.text ++ more.text }

/-- The plain scalar that starts here. In a block its further lines are indented by more than `indent`. -/
def readPlain (flow : Bool) (indent : Int) (c : Cursor) : PlainText :=
  plainWithin flow indent false (c.remaining + 1) c

/-! ### Quoted scalars -/

def escapes : List (Char × Char) :=
  [('0', '\x00'), ('a', '\x07'), ('b', '\x08'), ('t', '\t'), ('\t', '\t'), ('n', '\n'), ('v', '\x0b'),
    ('f', '\x0c'), ('r', '\r'), ('e', '\x1b'), (' ', ' '), ('"', '"'), ('\\', '\\'), ('/', '/'),
    ('N', '\u0085'), ('_', '\u00a0'), ('L', '\u2028'), ('P', '\u2029')]

def codeWidths : List (Char × Nat) := [('x', 2), ('u', 4), ('U', 8)]

/-- The line breaks of further empty lines of a quoted scalar, and the place after the blanks of its next
line. -/
def quotedBreaks : Nat → Cursor → Except Fault (List Char × Cursor)
  | 0, _ => .error .malformed
  | fuel + 1, c => do
    if c.isAtMark then throw .malformed
    let c := c.skipWhile isBlank
    match c.rest with
    | x :: _ =>
      if isBreak x then
        let (breaks, after) ← quotedBreaks fuel c.advance
        return (breakChar x :: breaks, after)
      else return ([], c)
    | [] => return ([], c)

/-- Blanks within a quoted scalar, folded if a line ends there. -/
def quotedGap (c : Cursor) : Except Fault (List Char × Cursor) := do
  let blanks := c.rest.takeWhile isBlank
  let c := c.advanceBy blanks.length
  match c.rest with
  | [] => throw .malformed
  | x :: _ =>
    if isBreak x then
      let (breaks, after) ← quotedBreaks (c.remaining + 1) c.advance
      return (foldedBreaks x breaks, after)
    else return (blanks, c)

/-- The first number that is no code point. -/
def codeLimit : Nat := 0x110000

/-- The code points that an escape in double quotes stands for; the place is behind the backslash. -/
def readEscape (c : Cursor) : Except Fault (List Nat × Cursor) := do
  match c.rest with
  | [] => throw .malformed
  | x :: xs =>
    match escapes.lookup x, codeWidths.lookup x with
    | some y, _ => return ([y.toNat], c.advance)
    | none, some width =>
      match Json.hexNumber? width xs with
      | some code =>
        if code < codeLimit then return ([code], c.advanceBy (width + 1))
        else throw (.scalar (.noCodePoint code))
      | none => throw .malformed
    | none, none =>
      if isBreak x then
        let (breaks, after) ← quotedBreaks (c.remaining + 1) c.advance
        return (breaks.map Char.toNat, after)
      else throw .malformed

/-- The code points up to the closing quote, and the place behind it. -/
def quotedWithin (quote : Char) : Nat → Cursor → Except Fault (List Nat × Cursor)
  | 0, _ => .error .malformed
  | fuel + 1, c => do
    match c.rest with
    | [] => throw .malformed
    | x :: xs =>
      if x = quote then
        if quote = '\'' && xs.head? = some '\'' then
          let (codes, after) ← quotedWithin quote fuel (c.advanceBy 2)
          return ('\''.toNat :: codes, after)
        else return ([], c.advance)
      else if x = '\\' && quote = '"' then
        let (escaped, next) ← readEscape c.advance
        let (codes, after) ← quotedWithin quote fuel next
        return (escaped ++ codes, after)
      else if isGap x then
        let (gap, next) ← quotedGap c
        let (codes, after) ← quotedWithin quote fuel next
        return (gap.map Char.toNat ++ codes, after)
      else
        let (codes, after) ← quotedWithin quote fuel c.advance
        return (x.toNat :: codes, after)

/-- The quoted scalar whose opening quote is the next character. -/
def readQuoted (quote : Char) (c : Cursor) : Except Fault (List Nat × Cursor) :=
  quotedWithin quote (c.remaining + 1) c.advance

/-! ### Block scalars -/

/-- What becomes of the line breaks at the end of a block scalar. -/
inductive Chomping where
  | strip
  | clip
  | keep
  deriving Repr, DecidableEq

/-- The header of a block scalar: its chomping and its indentation, each at most once. -/
def blockHeader (c : Cursor) : Except Fault (Chomping × Option Nat × Cursor) :=
  let chomping? (c : Cursor) : Option Chomping :=
    match c.rest.head? with
    | some '+' => some .keep
    | some '-' => some .strip
    | _ => none
  let digit? (c : Cursor) : Option Nat :=
    match c.rest.head? with
    | some x => if '1' ≤ x && x ≤ '9' then some (x.toNat - '0'.toNat) else none
    | none => none
  let (chomping, increment, c) :=
    match chomping? c with
    | some chomping =>
      match digit? c.advance with
      | some n => (chomping, some n, c.advanceBy 2)
      | none => (chomping, none, c.advance)
    | none =>
      match digit? c with
      | some n =>
        match chomping? c.advance with
        | some chomping => (chomping, some n, c.advanceBy 2)
        | none => (.clip, some n, c.advance)
      | none => (.clip, none, c)
  if endsOr (fun x => x = ' ' || isBreak x) c.rest then
    match c.endOfLine? with
    | some after => .ok (chomping, increment, after)
    | none => .error .malformed
  else .error .malformed

/-- The line breaks before the first line of a block scalar, the deepest indentation among those lines, and
the place after them. -/
def blockIndentation : Nat → Cursor → List Char × Nat × Cursor
  | 0, c => ([], 0, c)
  | fuel + 1, c =>
    match c.rest with
    | ' ' :: _ =>
      let (breaks, deepest, after) := blockIndentation fuel c.advance
      (breaks, max c.advance.column deepest, after)
    | x :: _ =>
      if isBreak x then
        let (breaks, deepest, after) := blockIndentation fuel c.advance
        (breakChar x :: breaks, deepest, after)
      else ([], 0, c)
    | [] => ([], 0, c)

/-- The place after the indentation of a line, of at most `indent` columns. -/
def skipIndent (indent : Nat) (c : Cursor) : Cursor :=
  c.advanceBy ((c.rest.take (indent - c.column)).takeWhile (· = ' ')).length

/-- The line breaks of empty lines within a block scalar, and the place where its next line starts. -/
def blockBreaks (indent : Nat) : Nat → Cursor → List Char × Cursor
  | 0, c => ([], c)
  | fuel + 1, c =>
    let c := c.skipIndent indent
    match c.rest with
    | x :: _ =>
      if isBreak x then
        let (breaks, after) := blockBreaks indent fuel c.advance
        (breakChar x :: breaks, after)
      else ([], c)
    | [] => ([], c)

def startsWithBlank (c : Cursor) : Bool :=
  c.rest.head?.any isBlank

/-- The lines of a block scalar from here on, after the breaks of the empty lines before them. -/
def blockLines (folded : Bool) (chomping : Chomping) (indent : Nat) (breaks : List Char) :
    Nat → Cursor → List Char × Cursor
  | 0, c => ([], c)
  | fuel + 1, c =>
    if c.column ≠ indent || c.rest.isEmpty then
      (if chomping = .keep then breaks else [], c)
    else
      let line := c.rest.takeWhile (!isBreak ·)
      let atBreak := c.advanceBy line.length
      let lineBreak := (atBreak.rest.head?.map breakChar).toList
      let (moreBreaks, next) := blockBreaks indent (atBreak.remaining + 1) atBreak.advance
      if next.column = indent && !next.rest.isEmpty then
        let folds := folded && lineBreak = ['\n'] && !c.startsWithBlank && !next.startsWithBlank
        let joint := if folds then (if moreBreaks.isEmpty then [' '] else []) else lineBreak
        let (more, after) := blockLines folded chomping indent moreBreaks fuel next
        (breaks ++ line ++ joint ++ more, after)
      else
        let tail :=
          match chomping with
          | .strip => []
          | .clip => lineBreak
          | .keep => lineBreak ++ moreBreaks
        (breaks ++ line ++ tail, next)

/-- The block scalar whose mark is the next character, inside a block at column `indent`. -/
def readBlockScalar (folded : Bool) (indent : Int) (c : Cursor) : Except Fault (List Char × Cursor) := do
  let (chomping, increment, c) ← blockHeader c.advance
  let least := (indent + 1).toNat.max 1
  match increment with
  | some n =>
    let column := least + n - 1
    let (breaks, first) := blockBreaks column (c.remaining + 1) c
    return blockLines folded chomping column breaks (c.remaining + 1) first
  | none =>
    let (breaks, deepest, first) := blockIndentation (c.remaining + 1) c
    return blockLines folded chomping (least.max deepest) breaks (c.remaining + 1) first

end Cursor

end SchemaScribe.Document.Yaml
