import SchemaScribe.Text.CodePoint
import SchemaScribe.Text.Printable
import SchemaScribe.Text.Search

/-!
Two ways to show a text between quotes. `quoted` is the form of messages and log lines: the quotes are
single, or double where that saves an escape, and what cannot be printed is escaped. `doubleQuoted` is the
form of literals in generated source: always double quotes, and only control characters are escaped.
-/

namespace SchemaScribe.Text

/-- The escape of a character by its code point: two, four or eight hexadecimal digits. -/
def codeEscape (c : Char) : List Char :=
  if c.toNat < 0x100 then '\\' :: 'x' :: hexDigits 2 c.toNat
  else if c.toNat < 0x10000 then '\\' :: 'u' :: hexDigits 4 c.toNat
  else '\\' :: 'U' :: hexDigits 8 c.toNat

def quotedChar (quote c : Char) : List Char :=
  if c = quote || c = '\\' then ['\\', c]
  else if c = '\n' then ['\\', 'n']
  else if c = '\r' then ['\\', 'r']
  else if c = '\t' then ['\\', 't']
  else if isPrintable c then [c]
  else codeEscape c

/-- Double quotes exactly where the text has a single quote and no double one. -/
def quoteFor (cs : List Char) : Char :=
  if cs.contains '\'' && !cs.contains '"' then '"' else '\''

def quoted (s : String) : String :=
  let quote := quoteFor s.toList
  String.ofList (quote :: s.toList.flatMap (quotedChar quote) ++ [quote])

/-- The form of messages for a text that is given by code points, in which halves of surrogate pairs are
escaped. -/
def quotedCodes (codes : List Nat) : List Char :=
  let quote := quoteFor (codes.map shownChar)
  let shown (code : Nat) : List Char :=
    if isHalf code then '\\' :: 'u' :: hexDigits 4 code else quotedChar quote (shownChar code)
  quote :: codes.flatMap shown ++ [quote]

def doubleQuotedChar (c : Char) : List Char :=
  if c = '"' || c = '\\' then ['\\', c]
  else if c = '\n' then ['\\', 'n']
  else if c = '\r' then ['\\', 'r']
  else if c = '\t' then ['\\', 't']
  else if c = '\x08' then ['\\', 'b']
  else if c = '\x0c' then ['\\', 'f']
  else if c.toNat < 0x20 then '\\' :: 'u' :: hexDigits 4 c.toNat
  else [c]

def doubleQuoted (s : String) : String :=
  String.ofList ('"' :: s.toList.flatMap doubleQuotedChar ++ ['"'])

end SchemaScribe.Text
