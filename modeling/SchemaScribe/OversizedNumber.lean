/-!
Decimal numbers that are too long to be read or written.
-/

namespace SchemaScribe

inductive OversizedNumber where
  | text (digits : Nat)
  | integer
  deriving Repr, DecidableEq

namespace OversizedNumber

/-- The number of digits of the longest numbers that are read and written. -/
def maxDigits : Nat := 4300

def message (e : OversizedNumber) : String :=
  let length :=
    match e with
    | text digits => s!": value has {digits} digits"
    | integer => ""
  s!"Exceeds the limit ({maxDigits} digits) for integer string conversion{length}; use sys.set_int_max_str_digits() to increase the limit"

/-- The least natural number that has too many digits. -/
def limit : Nat :=
  Nat.pow 10 maxDigits

def write (n : Int) : Except OversizedNumber String :=
  if n.natAbs < limit then .ok (toString n) else .error integer

end OversizedNumber

end SchemaScribe
