import SchemaScribe.Document.Json
import SchemaScribe.Document.Yaml.Reader
import SchemaScribe.Text.Case
import SchemaScribe.Text.Utf8

/-!
The formats of documents, and reading the octets of a file in either of them. The text is UTF-8 with any
kind of line ends.
-/

namespace SchemaScribe.Document

inductive Format where
  | json
  | yaml
  deriving Repr, DecidableEq

inductive ReadFault where
  | undecodable (fault : Text.DecodeFault)
  /-- The text and the place in it where the grammar of JSON is violated. -/
  | malformedJson (text : List Char) (cause : Json.Cause) (offset : Nat)
  | malformedYaml
  | scalar (fault : Yaml.ScalarFault)
  | oversized (number : OversizedNumber)
  | tooDeep (innermost : Option Json.Collection)
  deriving Repr, DecidableEq

namespace ReadFault

def message : ReadFault → String
  | undecodable fault => fault.message
  | malformedJson text cause offset => Json.Fault.message text (.malformed cause offset)
  | malformedYaml => "Invalid YAML"
  | scalar fault => fault.message
  | oversized number => number.message
  | tooDeep none => "maximum recursion depth exceeded"
  | tooDeep (some innermost) => Json.Fault.message [] (.tooDeep innermost)

end ReadFault

namespace Format

/-- The format of files with a suffix: YAML by its two suffixes, in any letter case, and else JSON. -/
def ofSuffix (suffix : String) : Format :=
  if [".yaml", ".yml"].contains (Text.lower suffix) then .yaml else .json

/-- How many octets of a YAML file are read at a time. -/
def pieceSize : Nat := 8192

/-- The text of a file. JSON is decoded as a whole and YAML in pieces. -/
def decode (format : Format) (octets : List UInt8) : Except Text.DecodeFault (List Char) :=
  let decoded :=
    match format with
    | json => Text.decodeUtf8 octets
    | yaml => Text.decodePieces [] (Text.cutInto pieceSize octets)
  decoded.map Text.unifyLineEnds

def readText (format : Format) (cs : List Char) : Except ReadFault Value :=
  match format with
  | json =>
    match Json.read cs with
    | .ok v => .ok v
    | .error (.malformed cause offset) => .error (.malformedJson cs cause offset)
    | .error (.oversized number) => .error (.oversized number)
    | .error (.tooDeep innermost) => .error (.tooDeep (some innermost))
  | yaml =>
    match Yaml.read cs with
    | .ok v => .ok v
    | .error .malformed => .error .malformedYaml
    | .error .tooDeep => .error (.tooDeep none)
    | .error (.scalar fault) => .error (.scalar fault)

def read (format : Format) (octets : List UInt8) : Except ReadFault Value :=
  match format.decode octets with
  | .error fault => .error (.undecodable fault)
  | .ok cs => format.readText cs

end Format

end SchemaScribe.Document
