import SchemaScribe.Document.Value
import SchemaScribe.Entries
import SchemaScribe.OversizedNumber
import SchemaScribe.Text.Search

/-!
Reading JSON text. Besides the standard grammar the words `NaN`, `Infinity` and `-Infinity` are numbers,
and of repeated keys the last one counts. A fault names its cause and the character where it was found.
-/

namespace SchemaScribe.Document.Json

inductive Cause where
  | expectingValue
  | expectingName
  | expectingColon
  | expectingComma
  | extraData
  | unterminatedText
  | controlCharacter
  | badEscape
  | badCodeEscape
  | byteOrderMark
  deriving Repr, DecidableEq

inductive Collection where
  | list
  | object
  deriving Repr, DecidableEq

inductive Fault where
  | malformed (cause : Cause) (offset : Nat)
  | oversized (number : OversizedNumber)
  | tooDeep (innermost : Collection)
  deriving Repr, DecidableEq

namespace Cause

def message : Cause → String
  | expectingValue => "Expecting value"
  | expectingName => "Expecting property name enclosed in double quotes"
  | expectingColon => "Expecting ':' delimiter"
  | expectingComma => "Expecting ',' delimiter"
  | extraData => "Extra data"
  | unterminatedText => "Unterminated string starting at"
  | controlCharacter => "Invalid control character at"
  | badEscape => "Invalid \\escape"
  | badCodeEscape => "Invalid \\uXXXX escape"
  | byteOrderMark => "Unexpected UTF-8 BOM (decode using utf-8-sig)"

end Cause

def Collection.word : Collection → String
  | list => "array"
  | object => "object"

/-- Where a reader stands: the number of characters behind it and those ahead. -/
structure Cursor where
  offset : Nat
  rest : List Char

namespace Cursor

def skip (n : Nat) (c : Cursor) : Cursor :=
  ⟨c.offset + n, c.rest.drop n⟩

/-- Splits off the longest run of characters of a class. -/
def span (p : Char → Bool) (c : Cursor) : List Char × Cursor :=
  let run := c.rest.takeWhile p
  (run, c.skip run.length)

def skipBlanks (c : Cursor) : Cursor :=
  (c.span fun x => x = ' ' || x = '\t' || x = '\n' || x = '\r').2

/-- The place after `word`, if it stands here. -/
def word? (word : List Char) (c : Cursor) : Option Cursor :=
  if word.isPrefixOf c.rest then some (c.skip word.length) else none

end Cursor

def hexValue? (c : Char) : Option Nat :=
  if '0' ≤ c && c ≤ '9' then some (c.toNat - '0'.toNat)
  else if 'a' ≤ c && c ≤ 'f' then some (c.toNat - 'a'.toNat + 10)
  else if 'A' ≤ c && c ≤ 'F' then some (c.toNat - 'A'.toNat + 10)
  else none

/-- The number written by exactly `width` hexadecimal digits at the front of the text. -/
def hexNumber? (width : Nat) (cs : List Char) : Option Nat :=
  if cs.length < width then none
  else (cs.take width).foldlM (fun n c => (hexValue? c).map (16 * n + ·)) 0

def simpleEscape? (c : Char) : Option Char :=
  match c with
  | '"' | '\\' | '/' => some c
  | 'b' => some '\x08'
  | 'f' => some '\x0c'
  | 'n' => some '\n'
  | 'r' => some '\r'
  | 't' => some '\t'
  | _ => none

/-- The code point written by a code escape whose four digits start at `digits`, and the number of
characters it takes from there on: two escapes that form a surrogate pair are one code point. A digit must
be followed by something, since the text is still to be closed. -/
def codeEscape (offset : Nat) (digits : List Char) : Except Fault (Nat × Nat) := do
  if digits.length < 5 then throw (.malformed .badCodeEscape (offset - 1))
  let some high := hexNumber? 4 digits | throw (.malformed .badCodeEscape (offset - 1))
  if Text.isHighHalf high && 10 < digits.length
      && (digits.drop 4).take 2 = ['\\', 'u'] then
    let some low := hexNumber? 4 (digits.drop 6) | throw (.malformed .badCodeEscape (offset + 5))
    if Text.isLowHalf low then return (Text.joinHalves high low, 10)
  return (high, 4)

/-- The code points of the rest of a text whose opening quote stands at `start`. `skip` counts characters that
belong to the escape read last. -/
def readTextFrom (start offset skip : Nat) : List Char → Except Fault (List Nat × Cursor)
  | [] => .error (.malformed .unterminatedText start)
  | c :: cs =>
    match skip with
    | skip + 1 => readTextFrom start (offset + 1) skip cs
    | 0 =>
      if c = '"' then .ok ([], ⟨offset + 1, cs⟩)
      else if c = '\\' then
        match cs with
        | [] => .error (.malformed .unterminatedText start)
        | 'u' :: digits => do
          let (x, width) ← codeEscape (offset + 2) digits
          let (text, after) ← readTextFrom start (offset + 1) (width + 1) cs
          return (x :: text, after)
        | e :: _ => do
          let some x := simpleEscape? e | throw (.malformed .badEscape offset)
          let (text, after) ← readTextFrom start (offset + 1) 1 cs
          return (x.toNat :: text, after)
      else if c.toNat < 0x20 then .error (.malformed .controlCharacter offset)
      else do
        let (text, after) ← readTextFrom start (offset + 1) 0 cs
        return (c.toNat :: text, after)

def readText (here : Cursor) : Except Fault (List Nat × Cursor) :=
  readTextFrom here.offset (here.offset + 1) 0 (here.rest.drop 1)

def isDigit (c : Char) : Bool :=
  '0' ≤ c && c ≤ '9'

def natOfDigits (digits : List Char) : Nat :=
  digits.foldl (fun n c => 10 * n + (c.toNat - '0'.toNat)) 0

def readFraction? (here : Cursor) : Option (List Char × Cursor) := do
  let after ← here.word? ['.']
  let (digits, after) := after.span isDigit
  if digits.isEmpty then none else some (digits, after)

/-- The value of the exponent, if one follows. -/
def readExponent? (here : Cursor) : Option (Int × Cursor) := do
  let after ← (here.word? ['e']).or (here.word? ['E'])
  let (negative, after) :=
    match after.word? ['-'] with
    | some after => (true, after)
    | none => (false, (after.word? ['+']).getD after)
  let (digits, after) := after.span isDigit
  if digits.isEmpty then none
  else
    let n : Int := natOfDigits digits
    some (if negative then -n else n, after)

/-- A number, given the place of its sign or first digit. -/
def readNumber (start : Cursor) : Except Fault (Value × Cursor) := do
  let negative := (start.word? ['-']).isSome
  let unsigned := if negative then start.skip 1 else start
  let (run, _) := unsigned.span isDigit
  let digits := if run.head? = some '0' then ['0'] else run
  if digits.isEmpty then throw (.malformed .expectingValue start.offset)
  let after := unsigned.skip digits.length
  let fraction := readFraction? after
  let (fractionDigits, after) := fraction.getD ([], after)
  let exponent := readExponent? after
  if fraction.isNone && exponent.isNone then
    if OversizedNumber.maxDigits < digits.length then throw (.oversized (.text digits.length))
    let n : Int := natOfDigits digits
    return (.int (if negative then -n else n), after)
  let (shift, after) := exponent.getD (0, after)
  return (.real (.ofDecimal negative (natOfDigits (digits ++ fractionDigits))
    (shift - fractionDigits.length)), after)

def wordValues : List (List Char × Value) :=
  [("null".toList, .null), ("true".toList, .bool true), ("false".toList, .bool false),
    ("NaN".toList, .real .notFinite), ("Infinity".toList, .real .notFinite),
    ("-Infinity".toList, .real .notFinite)]

def readWord? (here : Cursor) : Option (Value × Cursor) :=
  wordValues.findSome? fun (word, value) => (here.word? word).map (value, ·)

/-- How many collections may be open. -/
def maxDepth : Nat := 986

/-- Fails where no further collection may be opened. -/
def requireRoom (depth : Nat) (collection : Collection) : Except Fault Unit :=
  if maxDepth ≤ depth then .error (.tooDeep collection) else .ok ()

mutual

/-- Reads one value, inside `depth` open collections. The fuel bounds the number of values and delimiters on the
way. -/
def readValue (depth fuel : Nat) (here : Cursor) : Except Fault (Value × Cursor) :=
  match fuel with
  | 0 => .error (.malformed .expectingValue here.offset)
  | fuel + 1 =>
    match here.rest with
    | [] => .error (.malformed .expectingValue here.offset)
    | '"' :: _ => do
      let (codes, after) ← readText here
      return (.ofCodes codes, after)
    | '{' :: _ => do
      requireRoom depth .object
      let inside := (here.skip 1).skipBlanks
      match inside.word? ['}'] with
      | some after => return (.object [], after)
      | none =>
        let (entries, after) ← readEntries (depth + 1) fuel inside
        return (.object (Entries.ofList entries), after)
    | '[' :: _ => do
      requireRoom depth .list
      let inside := (here.skip 1).skipBlanks
      match inside.word? [']'] with
      | some after => return (.list [], after)
      | none =>
        let (items, after) ← readItems (depth + 1) fuel inside
        return (.list items, after)
    | _ =>
      match readWord? here with
      | some found => .ok found
      | none => readNumber here

def readItems (depth fuel : Nat) (here : Cursor) : Except Fault (List Value × Cursor) :=
  match fuel with
  | 0 => .error (.malformed .expectingValue here.offset)
  | fuel + 1 => do
    let (item, after) ← readValue depth fuel here
    let after := after.skipBlanks
    match after.rest with
    | ']' :: _ => return ([item], after.skip 1)
    | ',' :: _ =>
      let (items, after) ← readItems depth fuel (after.skip 1).skipBlanks
      return (item :: items, after)
    | _ => throw (.malformed .expectingComma after.offset)

/-- Reads the entries of an object up to the closing brace. A key with half of a surrogate pair is like no key
that a document can have, and its entry is left out. -/
def readEntries (depth fuel : Nat) (here : Cursor) : Except Fault (List (String × Value) × Cursor) :=
  match fuel with
  | 0 => .error (.malformed .expectingName here.offset)
  | fuel + 1 => do
    if here.rest.head? ≠ some '"' then throw (.malformed .expectingName here.offset)
    let (key, after) ← readText here
    let some after := after.skipBlanks.word? [':']
      | throw (.malformed .expectingColon after.skipBlanks.offset)
    let (value, after) ← readValue depth fuel after.skipBlanks
    let entry := (Text.ofCodes? key).toList.map fun name => (name, value)
    let after := after.skipBlanks
    match after.rest with
    | '}' :: _ => return (entry, after.skip 1)
    | ',' :: _ =>
      let (entries, after) ← readEntries depth fuel (after.skip 1).skipBlanks
      return (entry ++ entries, after)
    | _ => throw (.malformed .expectingComma after.offset)

end

def read (cs : List Char) : Except Fault Value := do
  if cs.head? = some '\ufeff' then throw (.malformed .byteOrderMark 0)
  let (value, after) ← readValue 0 (2 * cs.length + 2) (Cursor.skipBlanks ⟨0, cs⟩)
  let after := after.skipBlanks
  if after.rest.isEmpty then return value
  throw (.malformed .extraData after.offset)

/-- The line and the column of a character, both counted from 1. -/
def position (cs : List Char) (offset : Nat) : Nat × Nat :=
  let before := cs.take offset
  (before.count '\n' + 1, (before.reverse.takeWhile (· ≠ '\n')).length + 1)

def Fault.message (cs : List Char) : Fault → String
  | malformed cause offset =>
    let (line, column) := position cs offset
    s!"{cause.message}: line {line} column {column} (char {offset})"
  | oversized number => number.message
  | tooDeep innermost =>
    s!"maximum recursion depth exceeded while decoding a JSON {innermost.word} from a unicode string"

end SchemaScribe.Document.Json
