import SchemaScribe.Entries
import SchemaScribe.Files.Fault

/-!
File systems as values. A place is given by the names that lead to it from the root; paths are followed name
by name, so that a double dot leads back only from a directory that is there.
-/

namespace SchemaScribe

inductive FileContent where
  | directory
  | file (octets : List UInt8)
  /-- A file that may be neither read nor written. -/
  | sealed
  deriving Repr, DecidableEq

abbrev Place := List String

/-- What there is at which place. The root is a directory that need not be listed. -/
structure FileTree where
  contents : List (Place × FileContent)
  workingDirectory : Place
  deriving Repr, DecidableEq

namespace FileTree

def content? (t : FileTree) (place : Place) : Option FileContent :=
  if place.isEmpty then some .directory else t.contents.lookup place

def set (t : FileTree) (place : Place) (content : FileContent) : FileTree :=
  { t with contents := Entries.set place content t.contents }

/-- The longest name of a file, in octets. -/
def maxName : Nat := 255

/-- The first length of a path that is too long, in octets. -/
def pathLimit : Nat := 4096

/-- The place to which names lead from a given one. The last name need not exist. -/
def follow (t : FileTree) (place : Place) : List String → Except FileCause Place
  | [] => .ok place
  | name :: names =>
    match t.content? place with
    | none => .error .notFound
    | some (.file _) => .error .notADirectory
    | some .sealed => .error .notADirectory
    | some .directory =>
      if maxName < name.utf8ByteSize then .error .nameTooLong
      else t.follow (if name = ".." then place.dropLast else place ++ [name]) names

/-- The place of a path, and what there is. -/
def find (t : FileTree) (path : Path) : Except FileCause (Place × Option FileContent) :=
  if path.isBroken then .error .brokenName
  else if path.hasZeroCharacter then .error .zeroCharacter
  else if pathLimit ≤ path.render.utf8ByteSize then .error .nameTooLong
  else
    (t.follow (if path.root = "" then t.workingDirectory else []) path.names).map fun place =>
      (place, t.content? place)

/-- Whether there is a file at a path. Where there is nothing there is none, but names that are too long give
no answer. -/
def isFile (t : FileTree) (path : Path) : Except FileFault Bool :=
  match t.find path with
  | .ok (_, some (.file _)) => .ok true
  | .ok (_, some .sealed) => .ok true
  | .error .nameTooLong => .error ⟨.nameTooLong, path⟩
  | _ => .ok false

def isDirectory (t : FileTree) (path : Path) : Bool :=
  match t.find path with
  | .ok (_, some .directory) => true
  | _ => false

def read (t : FileTree) (path : Path) : Except FileFault (List UInt8) :=
  match t.find path with
  | .error cause => .error ⟨cause, path⟩
  | .ok (_, none) => .error ⟨.notFound, path⟩
  | .ok (_, some .directory) => .error ⟨.isADirectory, path⟩
  | .ok (_, some .sealed) => .error ⟨.accessDenied, path⟩
  | .ok (_, some (.file octets)) => .ok octets

/-- A new directory in a directory that is there. -/
def makeDirectory (t : FileTree) (path : Path) : Except FileFault FileTree :=
  match t.find path with
  | .error cause => .error ⟨cause, path⟩
  | .ok (_, some _) => .error ⟨.alreadyExists, path⟩
  | .ok (place, none) => .ok (t.set place .directory)

/-- A fault of making a directory is none where the directory is there. -/
def acceptDirectory (t : FileTree) (path : Path) : Except FileFault FileTree → Except FileFault FileTree
  | .ok t => .ok t
  | .error fault => if t.isDirectory path then .ok t else .error fault

/-- Makes a directory and the directories on the way to it, as far as they are missing. -/
def makeDirectories (t : FileTree) (path : Path) : Except FileFault FileTree :=
  match t.makeDirectory path with
  | .error ⟨.notFound, p⟩ =>
    if path.names.isEmpty then .error ⟨.notFound, p⟩
    else
      match t.makeDirectories path.parent with
      | .error fault => .error fault
      | .ok t => t.acceptDirectory path (t.makeDirectory path)
  | made => t.acceptDirectory path made
termination_by path.names.length
decreasing_by
  cases h : path.names <;> simp_all [Path.parent]

def putFile (t : FileTree) (path : Path) (octets : List UInt8) : Except FileFault FileTree :=
  match t.find path with
  | .error cause => .error ⟨cause, path⟩
  | .ok (_, some .directory) => .error ⟨.isADirectory, path⟩
  | .ok (_, some .sealed) => .error ⟨.accessDenied, path⟩
  | .ok (place, _) => .ok (t.set place (.file octets))

/-- Writes a text into a file, in directories that are made where they are missing. -/
def write (t : FileTree) (path : Path) (text : String) : Except FileFault FileTree :=
  match t.makeDirectories path.parent with
  | .error fault => .error fault
  | .ok t => t.putFile path text.toUTF8.toList

/-- The files that are new in a later tree or have other octets there. -/
def changes (t later : FileTree) : List (Place × List UInt8) :=
  later.contents.filterMap fun (place, content) =>
    match content with
    | .directory => none
    | .sealed => none
    | .file octets => if t.contents.lookup place = some content then none else some (place, octets)

end FileTree

end SchemaScribe
