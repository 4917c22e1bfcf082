import SchemaScribe.Document.Yaml.Text
import SchemaScribe.Document.Yaml.Token
import SchemaScribe.Text.Utf8

/-!
What is said about nodes and documents beside their content: anchors, aliases, tags and directives. Each is
read from the place of its first character.
-/

namespace SchemaScribe.Document.Yaml.Cursor

/-- The longest name that starts here; there must be one. -/
def readName (c : Cursor) : Except Fault (String × Cursor) :=
  let name := c.rest.takeWhile isNameChar
  if name.isEmpty then .error .malformed else .ok (String.ofList name, c.advanceBy name.length)

/-- The place itself, where the text has ended or goes on with a character of a class. -/
def expect (p : Char → Bool) (c : Cursor) : Except Fault Cursor :=
  if endsOr p c.rest then .ok c else .error .malformed

def isSpaceOrBreak (c : Char) : Bool :=
  c = ' ' || isBreak c

/-! ### Anchors and aliases -/

/-- What may follow the name of an anchor. -/
def endsAnchor (c : Char) : Bool :=
  isGap c || ['?', ':', ',', ']', '}', '%', '@', '\x60'].contains c

/-- The name behind the mark of an anchor or an alias. -/
def readAnchor (c : Cursor) : Except Fault (String × Cursor) := do
  let (name, after) ← c.advance.readName
  return (name, ← after.expect endsAnchor)

/-! ### Tags -/

def isTagChar (c : Char) : Bool :=
  isNameChar c || ";/?:@&=+$,.!~*'()[]".toList.contains c

/-- The octets that are written by percent signs and pairs of hexadecimal digits. -/
def readOctets : Nat → Cursor → Except Fault (List UInt8 × Cursor)
  | 0, _ => .error .malformed
  | fuel + 1, c =>
    match c.rest with
    | '%' :: digits =>
      match Json.hexNumber? 2 digits with
      | some octet => (readOctets fuel (c.advanceBy 3)).map fun (octets, after) => (UInt8.ofNat octet :: octets, after)
      | none => .error .malformed
    | _ => .ok ([], c)

/-- The rest of a tag, in which octets of UTF-8 may be escaped. -/
def tagTextWithin : Nat → Cursor → Except Fault (List Char × Cursor)
  | 0, _ => .error .malformed
  | fuel + 1, c =>
    match c.rest with
    | '%' :: _ => do
      let (octets, next) ← readOctets (c.remaining + 1) c
      match Text.decodeUtf8 octets with
      | .error _ => .error .malformed
      | .ok cs => (tagTextWithin fuel next).map fun (more, after) => (cs ++ more, after)
    | x :: _ =>
      if isTagChar x then (tagTextWithin fuel c.advance).map fun (more, after) => (x :: more, after)
      else .ok ([], c)
    | [] => .ok ([], c)

/-- The rest of a tag; it must not be empty. -/
def readTagText (c : Cursor) : Except Fault (String × Cursor) := do
  let (cs, after) ← tagTextWithin (c.remaining + 1) c
  if after.offset = c.offset then throw .malformed
  return (String.ofList cs, after)

/-- A tag handle: one exclamation mark, or a name, which may be empty, between two of them. -/
def readHandle (c : Cursor) : Except Fault (String × Cursor) := do
  let name := (c.rest.drop 1).takeWhile isNameChar
  match c.rest.take 1, c.rest.drop (name.length + 1) with
  | ['!'], '!' :: _ => return ("!" ++ String.ofList name ++ "!", c.advanceBy (name.length + 2))
  | ['!'], ' ' :: _ => if name.isEmpty then return ("!", c.advance) else throw .malformed
  | _, _ => throw .malformed

/-- A tag: in full between angle brackets, nothing but its mark, or a handle and the rest. -/
def readTag (c : Cursor) : Except Fault (Token × Cursor) := do
  let behindMark := c.rest.drop 1
  let (token, after) ←
    if behindMark.head? = some '<' then do
      let (text, after) ← (c.advanceBy 2).readTagText
      if after.rest.head? = some '>' then pure (Token.tag none text, after.advance) else throw .malformed
    else if startsWithGap behindMark then pure (Token.tag none "!", c.advance)
    else do
      let word := behindMark.takeWhile (!isSpaceOrBreak ·)
      let (handle, next) ← if word.contains '!' then c.readHandle else pure ("!", c.advance)
      let (text, after) ← next.readTagText
      pure (Token.tag (some handle) text, after)
  return (token, ← after.expect isSpaceOrBreak)

/-! ### Directives -/

/-- A natural number in decimal digits. -/
def readNumber (c : Cursor) : Except Fault (Nat × Cursor) :=
  let digits := c.rest.takeWhile isDigit
  if digits.isEmpty then .error .malformed
  else .ok (digits.foldl (fun n x => 10 * n + (x.toNat - '0'.toNat)) 0, c.advanceBy digits.length)

/-- The version of the language: two numbers with a point between them. -/
def readVersion (c : Cursor) : Except Fault (Directive × Cursor) := do
  let (major, next) ← (c.skipWhile (· = ' ')).readNumber
  if next.rest.head? ≠ some '.' then throw .malformed
  let (_, after) ← next.advance.readNumber
  return (.version major, ← after.expect isSpaceOrBreak)

/-- A tag handle and what it stands for. -/
def readHandleMeaning (c : Cursor) : Except Fault (Directive × Cursor) := do
  let (name, next) ← (c.skipWhile (· = ' ')).readHandle
  if next.rest.head? ≠ some ' ' then throw .malformed
  let (meaning, after) ← (next.skipWhile (· = ' ')).readTagText
  return (.handle name meaning, ← after.expect isSpaceOrBreak)

/-- A directive, which takes the rest of its line. -/
def readDirective (c : Cursor) : Except Fault (Token × Cursor) := do
  let (name, next) ← c.advance.readName
  let next ← next.expect isSpaceOrBreak
  let (directive, after) ←
    if name = "YAML" then next.readVersion
    else if name = "TAG" then next.readHandleMeaning
    else pure (Directive.other, next.skipWhile (!isBreak ·))
  match after.endOfLine? with
  | some after => return (.directive directive, after)
  | none => throw .malformed

end SchemaScribe.Document.Yaml.Cursor
