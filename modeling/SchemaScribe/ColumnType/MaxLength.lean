import SchemaScribe.Diagram.Basic
import SchemaScribe.Document.Value
import SchemaScribe.OversizedNumber
import SchemaScribe.Text.DecimalDigit

/-!
The size that a maximum length declares: a positive number, or the positive number that a text starts
with after white space, in the digits of any script.
-/

namespace SchemaScribe

namespace MaxLength

open Text

def positive? (n : Int) : Option Nat :=
  if 0 < n then some n.toNat else none

/-- The digits at the start of a text, after its leading blanks. -/
def leadingDigits (cs : List Char) : List Char :=
  (cs.dropWhile isBlank).takeWhile isDecimalDigit

def size? : MaxLength → Except OversizedNumber (Option Nat)
  | number n => .ok (positive? n)
  | text s =>
    let digits := leadingDigits s.toList
    if OversizedNumber.maxDigits < digits.length then .error (.text digits.length)
    else .ok (positive? (numberOfDigits digits))

/-- Numbers and texts declare a maximum length, other values do not. -/
def ofValue? : Document.Value → Option MaxLength
  | .int n => some (number n)
  | .text s => some (text s)
  | _ => none

end MaxLength

/-- The size that a field declares, if any. -/
def Field.size? (f : Field) : Except OversizedNumber (Option Nat) :=
  match f.maxLength with
  | none => .ok none
  | some length => length.size?

end SchemaScribe
