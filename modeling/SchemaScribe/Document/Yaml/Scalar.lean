import SchemaScribe.Document.Value
import SchemaScribe.Document.Yaml.Tag
import SchemaScribe.Text.Base64
import SchemaScribe.Text.Blank
import SchemaScribe.Text.Case
import SchemaScribe.Text.DecimalDigit

/-!
What scalars denote. A scalar whose tag was suggested by its form nearly always has a value; one that was given
its tag may have none.
-/

namespace SchemaScribe.Document.Yaml.Scalar

def signed (negative : Bool) (n : Int) : Int :=
  if negative then -n else n

/-! ### Integers -/

/-- The value of a digit: a decimal digit of any script, or a letter. -/
def digitIn? (base : Nat) (c : Char) : Option Nat :=
  ((Text.digitValue? c).or (Tag.hexValue? c)).filter (· < base)

def natIn (base : Nat) (values : List Nat) : Nat :=
  values.foldl (fun n value => base * n + value) 0

def baseLetter? (base : Nat) : Option Char :=
  if base = 2 then some 'b' else if base = 8 then some 'o' else if base = 16 then some 'x' else none

/-- The text behind a zero and the letter of the base, which may be a capital. -/
def withoutBase (base : Nat) : List Char → List Char
  | zero :: c :: cs =>
    if Text.digitValue? zero = some 0 && some c.toLower = baseLetter? base then cs else zero :: c :: cs
  | cs => cs

/-- The integer that digits write, with a sign and between blanks. Only the digits of base ten are limited, and
there may be too many of them whatever follows. -/
def integerIn (base : Nat) (codes : List Nat) : Except ScalarFault Int :=
  let (negative, unsigned) := Tag.splitSign (Text.trimBy Text.isBlank (codes.map Text.shownChar))
  let count := (unsigned.takeWhile Text.isDecimalDigit).length
  if base = 10 && OversizedNumber.maxDigits < count then .error (.oversized (.text count))
  else
    match (withoutBase base unsigned).mapM (digitIn? base) with
    | none => .error (.notInteger base codes)
    | some [] => .error (.notInteger base codes)
    | some values => .ok (signed negative (natIn base values))

/-- The integer in base sixty whose places are written in decimal. -/
def sexagesimal (places : List (List Nat)) : Except ScalarFault Int :=
  places.foldlM (fun n place => (integerIn 10 place).map (60 * n + ·)) 0

def splitSign (codes : List Nat) : Bool × List Nat :=
  match codes.head?.map Text.shownChar with
  | some '-' => (true, codes.drop 1)
  | some '+' => (false, codes.drop 1)
  | _ => (false, codes)

def withoutUnderscores (codes : List Nat) : List Nat :=
  codes.filter (· ≠ '_'.toNat)

/-- The integer that a text without sign and underscores writes; the base is told by its start. -/
def unsignedInteger (codes : List Nat) : Except ScalarFault Int :=
  match codes.map Text.shownChar with
  | [] => .error .noNumber
  | ['0'] => .ok 0
  | '0' :: 'b' :: _ => integerIn 2 (codes.drop 2)
  | '0' :: 'x' :: _ => integerIn 16 (codes.drop 2)
  | '0' :: _ => integerIn 8 codes
  | _ => if codes.contains ':'.toNat then sexagesimal (Tag.parts ':'.toNat codes) else integerIn 10 codes

def integer (codes : List Nat) : Except ScalarFault Int :=
  let (negative, unsigned) := splitSign (withoutUnderscores codes)
  (unsignedInteger unsigned).map (signed negative)

/-! ### Numbers with a point -/

/-- A number as an integer and a power of ten. -/
structure Decimal where
  mantissa : Int
  exponent : Int

namespace Decimal

def zero : Decimal :=
  ⟨0, 0⟩

/-- A number that is no greater and no less than a double can be; nothing where it is greater. -/
def bounded? (d : Decimal) : Option Decimal :=
  let magnitude : Int := (Nat.toDigits 10 d.mantissa.natAbs).length + d.exponent
  if d.mantissa = 0 || magnitude < -330 then some zero
  else if 310 < magnitude then none
  else some d

def real (d : Decimal) : Real :=
  .ofDecimal (d.mantissa < 0) d.mantissa.natAbs d.exponent

/-- The sum of sixty times a number and the next place. -/
def addSixtieth (n place : Decimal) : Decimal :=
  let exponent := min n.exponent place.exponent
  let scaled (d : Decimal) : Int := d.mantissa * Real.tenTo (d.exponent - exponent).toNat
  ⟨60 * scaled n + scaled place, exponent⟩

end Decimal

def decimalDigits? (cs : List Char) : Option (List Nat) :=
  cs.mapM Text.digitValue?

/-- The exponent that a text writes behind a letter E; the empty text writes zero. -/
def exponent? : List Char → Option Int
  | [] => some 0
  | e :: cs => do
    if e ≠ 'e' && e ≠ 'E' then none
    let (negative, digits) := Tag.splitSign cs
    let digits ← decimalDigits? digits
    if digits.isEmpty then none else some (signed negative (natIn 10 digits))

def decimal? (cs : List Char) : Option Decimal := do
  let (negative, unsigned) := Tag.splitSign (Text.trimBy Text.isBlank cs)
  let mantissa := unsigned.takeWhile fun c => c ≠ 'e' && c ≠ 'E'
  let exponent ← exponent? (unsigned.drop mantissa.length)
  let whole := mantissa.takeWhile (· ≠ '.')
  let wholeDigits ← decimalDigits? whole
  let fractionDigits ← decimalDigits? (mantissa.drop (whole.length + 1))
  let digits := wholeDigits ++ fractionDigits
  if digits.isEmpty then none
  else some ⟨signed negative (natIn 10 digits), exponent - fractionDigits.length⟩

/-- Further words for what is no finite number. -/
def notFiniteWords : List String := ["inf", "infinity", "nan"]

def isNotFinite (cs : List Char) : Bool :=
  notFiniteWords.contains (String.ofList (Tag.splitSign (Text.trimBy Text.isBlank cs)).2)

/-- The number that a text writes, if it is finite. -/
def decimal (codes : List Nat) : Except ScalarFault (Option Decimal) :=
  let cs := codes.map Text.shownChar
  match decimal? cs with
  | some d => .ok d.bounded?
  | none => if isNotFinite cs then .ok none else .error (.notReal codes)

def real (codes : List Nat) : Except ScalarFault Real := do
  let lowered := Text.lowerCodes (withoutUnderscores codes)
  if lowered.isEmpty then throw .noNumber
  let (negative, unsigned) := splitSign lowered
  if [".inf", ".nan"].contains (String.ofList (unsigned.map Text.shownChar)) then return .notFinite
  match (← (Tag.parts ':'.toNat unsigned).mapM decimal).mapM id with
  | none => return .notFinite
  | some [] => throw .noNumber
  | some (first :: sixtieths) =>
    let sum := sixtieths.foldl Decimal.addSixtieth first
    return { sum with mantissa := signed negative sum.mantissa }.real

/-! ### Other scalars -/

def truth (codes : List Nat) : Except ScalarFault Bool :=
  let word := Text.lowerCodes codes
  match Tag.truthWords.lookup (String.ofList (word.map Text.shownChar)) with
  | some b => .ok b
  | none => .error (.notTruth word)

def octets (codes : List Nat) : Except Fault (List UInt8) :=
  if codes.all (· < 0x80) then
    match Text.Base64.decode? (codes.map Text.shownChar) with
    | some octets => .ok octets
    | none => .error .malformed
  else .error .malformed

/-- The value of a scalar. A timestamp has to be a point in time. -/
def value (tag : Tag) (codes : List Nat) : Except Fault Value :=
  match tag with
  | .text => .ok (.ofCodes codes)
  | .null => .ok .null
  | .truth => ((truth codes).map .bool).mapError .scalar
  | .integer => ((integer codes).map .int).mapError .scalar
  | .real => ((real codes).map .real).mapError .scalar
  | .timestamp =>
    match Timestamp.read? (codes.map Text.shownChar) with
    | none => .error (.scalar .notTimestamp)
    | some t => (t.check.map fun _ => .timestamp t.time.isSome).mapError fun fault => .scalar (.time fault)
  | .binary => (octets codes).map .octets
  | .sequence => .error .malformed
  | .mapping => .error .malformed
  | .set => .error .malformed
  | .orderedMapping => .error .malformed
  | .pairs => .error .malformed
  | .merge => .error .malformed
  | .default => .error .malformed
  | .unknown => .error .malformed

end SchemaScribe.Document.Yaml.Scalar
