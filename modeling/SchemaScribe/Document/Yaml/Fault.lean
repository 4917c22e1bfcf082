import SchemaScribe.OversizedNumber
import SchemaScribe.Text.Quoted

/-!
What can be wrong with a YAML text: its grammar is violated, or a part of it that is well-formed has no value.
-/

namespace SchemaScribe.Document.Yaml

inductive TimeFault where
  | year (n : Nat)
  | month
  | day
  | hour
  | minute
  | second
  | zone (minutes : Int)
  deriving Repr, DecidableEq

/-- Why a scalar has no value. -/
inductive ScalarFault where
  | oversized (number : OversizedNumber)
  | noNumber
  | notInteger (base : Nat) (codes : List Nat)
  | notReal (codes : List Nat)
  | notTruth (codes : List Nat)
  | notTimestamp
  /-- A timestamp that is given as the default value of a mapping. -/
  | enclosedTimestamp
  | time (fault : TimeFault)
  | noCodePoint (code : Nat)
  deriving Repr, DecidableEq

inductive Fault where
  | malformed
  | tooDeep
  | scalar (fault : ScalarFault)
  deriving Repr, DecidableEq

namespace TimeFault

/-- An offset as days and seconds, where the seconds are counted forward and a part that is zero is left out. -/
def renderOffset (minutes : Int) : String :=
  let days := Int.fdiv (minutes * 60) 86400
  let seconds := Int.fmod (minutes * 60) 86400
  let parts := (if days = 0 then [] else [s!"days={days}"]) ++ if seconds = 0 then [] else [s!"seconds={seconds}"]
  "datetime.timedelta(" ++ ", ".intercalate parts ++ ")"

def message : TimeFault → String
  | year n => s!"year {n} is out of range"
  | month => "month must be in 1..12"
  | day => "day is out of range for month"
  | hour => "hour must be in 0..23"
  | minute => "minute must be in 0..59"
  | second => "second must be in 0..59"
  | zone minutes =>
    "offset must be a timedelta strictly between -timedelta(hours=24) and timedelta(hours=24), not "
      ++ renderOffset minutes ++ "."

end TimeFault

namespace ScalarFault

/-- How much is shown of a text that is no integer. -/
def shownLength : Nat := 200

/-- The first number that is no signed integer of 32 bits. -/
def intLimit : Nat := 0x80000000

def message : ScalarFault → String
  | oversized number => number.message
  | noNumber => "string index out of range"
  | notInteger base codes =>
    s!"invalid literal for int() with base {base}: " ++ String.ofList ((Text.quotedCodes codes).take shownLength)
  | notReal codes => "could not convert string to float: " ++ String.ofList (Text.quotedCodes codes)
  | notTruth codes => String.ofList (Text.quotedCodes codes)
  | notTimestamp => "'NoneType' object has no attribute 'groupdict'"
  | enclosedTimestamp => "expected string or bytes-like object, got 'list'"
  | time fault => fault.message
  | noCodePoint code =>
    if code < intLimit then "chr() arg not in range(0x110000)" else "Python int too large to convert to C int"

end ScalarFault

end SchemaScribe.Document.Yaml
