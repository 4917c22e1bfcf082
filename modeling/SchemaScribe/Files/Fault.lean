import SchemaScribe.Files.Path
import SchemaScribe.Text.Quoted

/-!
Faults of file access. Each has a cause and the path that it is about.
-/

namespace SchemaScribe

inductive FileCause where
  | notFound
  | accessDenied
  | alreadyExists
  | notADirectory
  | isADirectory
  | nameTooLong
  /-- A path with the character zero is not handed to the system. -/
  | zeroCharacter
  /-- Nor is one with half of a surrogate pair. -/
  | brokenName
  /-- Any other cause, by its number and its text. -/
  | other (number : Nat) (text : String)
  deriving Repr, DecidableEq

structure FileFault where
  cause : FileCause
  path : Path
  deriving Repr, DecidableEq

namespace FileCause

def number : FileCause → Nat
  | notFound => 2
  | accessDenied => 13
  | alreadyExists => 17
  | notADirectory => 20
  | isADirectory => 21
  | nameTooLong => 36
  | zeroCharacter => 22
  | brokenName => 22
  | other number _ => number

def text : FileCause → String
  | notFound => "No such file or directory"
  | accessDenied => "Permission denied"
  | alreadyExists => "File exists"
  | notADirectory => "Not a directory"
  | isADirectory => "Is a directory"
  | nameTooLong => "File name too long"
  | zeroCharacter => "embedded null byte"
  | brokenName => "surrogates not allowed"
  | other _ text => text

/-- Whether it is the system that refuses the access. -/
def isOfSystem : FileCause → Bool
  | zeroCharacter => false
  | brokenName => false
  | _ => true

end FileCause

namespace FileFault

/-- A fault of the system is told with its number and the path. -/
def message (fault : FileFault) : String :=
  if fault.cause.isOfSystem then
    s!"[Errno {fault.cause.number}] {fault.cause.text}: " ++ Text.quoted fault.path.render
  else fault.cause.text

end FileFault

end SchemaScribe
