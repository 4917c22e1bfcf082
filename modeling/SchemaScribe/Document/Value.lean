import SchemaScribe.Text.CodePoint

/-!
The values that a document holds once its notation has been read. A number written with a point or an
exponent is rounded to a binary double first; a document needs to know of it only whether it is whole.
-/

namespace SchemaScribe.Document

/-- What is left of a number that is no integer literal after rounding it to a binary double. -/
inductive Real where
  | whole (n : Int)
  | fractional
  | notFinite
  deriving Repr, DecidableEq

namespace Real

def twoTo (n : Nat) : Nat :=
  Nat.pow 2 n

def tenTo (n : Nat) : Nat :=
  Nat.pow 10 n

/-- The nearest multiple of `den`, as a quotient; a tie goes to the even one. -/
def roundedQuotient (num den : Nat) : Nat :=
  let below := num / den
  let twice := 2 * (num % den)
  if twice < den then below
  else if den < twice then below + 1
  else below + below % 2

/-- The quotient `num / (den * 2 ^ shift)` as a fraction. -/
def scaled (num den : Nat) (shift : Int) : Nat × Nat :=
  if 0 ≤ shift then (num, den * twoTo shift.toNat) else (num * twoTo (-shift).toNat, den)

/-- The positive fraction `num / den` rounded to 53 binary digits, fewer below the normal range. -/
def ofFraction (num den : Nat) : Real :=
  let estimate : Int := (num.log2 : Int) - (den.log2 : Int) - 53
  let fits := (scaled num den estimate).1 < (scaled num den estimate).2 * twoTo 53
  let shift : Int := max (-1074) (if fits then estimate else estimate + 1)
  let mantissa := roundedQuotient (scaled num den shift).1 (scaled num den shift).2
  if 0 ≤ shift then
    let n := mantissa * twoTo shift.toNat
    if n < twoTo 1024 then .whole n else .notFinite
  else
    let unit := twoTo (-shift).toNat
    if mantissa % unit = 0 then .whole (mantissa / unit) else .fractional

/-- The number `digits * 10 ^ exponent`. Magnitudes far outside the range of doubles are decided by their
number of digits alone. -/
def ofDecimal (negative : Bool) (digits : Nat) (exponent : Int) : Real :=
  let magnitude : Int := (Nat.toDigits 10 digits).length + exponent
  let rounded :=
    if digits = 0 || magnitude < -330 then .whole 0
    else if 310 < magnitude then .notFinite
    else if 0 ≤ exponent then ofFraction (digits * tenTo exponent.toNat) 1
    else ofFraction digits (tenTo (-exponent).toNat)
  match rounded with
  | .whole n => .whole (if negative then -n else n)
  | other => other

end Real

/-- A value of a document. The entries of an object have distinct keys and keep their order. -/
inductive Value where
  | null
  | bool (b : Bool)
  | int (n : Int)
  | real (x : Real)
  | text (s : String)
  | brokenText (t : Text.Broken)
  | timestamp (hasTime : Bool)
  | octets (octets : List UInt8)
  | list (items : List Value)
  | set (items : List Value)
  | object (entries : List (String × Value))
  deriving Repr, Inhabited

namespace Value

def ofCodes (codes : List Nat) : Value :=
  if h : codes.any Text.isHalf then brokenText ⟨codes, h⟩ else text (String.ofList (codes.map Char.ofNat))

/-- The word by which messages call the kind of a value. -/
def kindWord : Value → String
  | null => "NoneType"
  | bool _ => "bool"
  | int _ => "int"
  | real _ => "float"
  | text _ => "str"
  | brokenText _ => "str"
  | timestamp false => "date"
  | timestamp true => "datetime"
  | octets _ => "bytes"
  | list _ => "list"
  | set _ => "set"
  | object _ => "dict"

end Value

end SchemaScribe.Document
