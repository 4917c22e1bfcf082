import SchemaScribe.Console

/-!
Formatting of the models by Black, which is no part of the tool. Models that cannot be formatted stay as they are.
-/

namespace SchemaScribe.CommandLine

/-- What has come of formatting a text. -/
inductive Formatting where
  | changed (text : String)
  | unchanged
  | failed (message : String)
  deriving Repr, DecidableEq

/-- A formatter, by what comes of each text. -/
abbrev CodeFormatter := String → Formatting

namespace CodeFormatter

/-- What stands in where there is no formatter. -/
def unavailable : CodeFormatter :=
  fun _ => .failed "Black is not available."

end CodeFormatter

namespace Formatting

/-- The text to go on with in the place of `code`. -/
def textFor (code : String) : Formatting → String
  | changed text => text
  | unchanged => code
  | failed _ => code

/-- What is told of the formatting. The label says where the text belongs. -/
def records (label : String) : Formatting → List Console.Record
  | changed _ => [⟨.debug, s!"Formatted code using Black: {label}"⟩]
  | unchanged => [⟨.debug, s!"Black formatter did not change the code: {label}"⟩]
  | failed message =>
    [⟨.error, s!"Could not format Python code using Black: {message}"⟩,
      ⟨.warning, "Writing unformatted Python code due to Black error."⟩]

end Formatting

end SchemaScribe.CommandLine
