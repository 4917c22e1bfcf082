import SchemaScribe.Text.Quoted

/-!
Words that are none of the names of a closed choice.
-/

namespace SchemaScribe

structure UnknownWord where
  word : String
  choice : String
  deriving Repr, DecidableEq

namespace UnknownWord

def message (e : UnknownWord) : String :=
  Text.quoted e.word ++ " is not a valid " ++ e.choice

end UnknownWord

end SchemaScribe
