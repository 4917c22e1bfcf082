import SchemaScribe.LooseText
import SchemaScribe.Text.Search

/-!
Paths of files, as the names between slashes. Empty names and single dots lead nowhere and are dropped;
double dots are kept, since where they lead depends on the files.
-/

namespace SchemaScribe

/-- A path. The root is empty where the path starts at the working directory. -/
structure Path where
  root : String
  names : List String
  /-- Halves of surrogate pairs are left over in the names, which have substitutes for them. -/
  isBroken : Bool := false
  deriving Repr, DecidableEq

namespace Path

/-- Two slashes at the start are a root of their own; any other number of them is the common root. -/
def rootOf (cs : List Char) : String :=
  match (cs.takeWhile (· = '/')).length with
  | 0 => ""
  | 2 => "//"
  | _ => "/"

def namesOf (cs : List Char) : List String :=
  ((Text.splitOn '/' cs).map String.ofList).filter fun name => name ≠ "" && name ≠ "."

def ofString (s : String) : Path where
  root := rootOf s.toList
  names := namesOf s.toList

def ofText : LooseText → Path
  | .proper s => ofString s
  | .broken t => { ofString t.shown with isBroken := true }

@[simp]
theorem ofText_proper (s : String) : ofText (.proper s) = ofString s :=
  rfl

def render (p : Path) : String :=
  if p.root = "" && p.names.isEmpty then "." else p.root ++ "/".intercalate p.names

def hasZeroCharacter (p : Path) : Bool :=
  p.names.any fun name => name.toList.contains '\x00'

def parent (p : Path) : Path :=
  { p with names := p.names.dropLast }

/-- A name from its last dot on, unless that is its first or its last character. -/
def suffixOf (name : List Char) : List Char :=
  let afterDot := (name.reverse.takeWhile (· ≠ '.')).reverse
  if afterDot.isEmpty || name.length ≤ afterDot.length + 1 then [] else '.' :: afterDot

def suffix (p : Path) : String :=
  match p.names.getLast? with
  | some name => String.ofList (suffixOf name.toList)
  | none => ""

end Path

end SchemaScribe
