import SchemaScribe.OversizedNumber
import SchemaScribe.Text.Blank
import SchemaScribe.Text.Search

/-!
Integers that a document gives as text. The plain form is a sequence of digits that starts with no superfluous
zero, behind an optional minus sign. Other texts are brought into that form first: white space around the number,
a plus sign, zeros at the start, a fraction of zeros and single underscores between digits say nothing.
-/

namespace SchemaScribe.Document.IntegerText

inductive Fault where
  | unreadable
  | tooLong
  deriving Repr, DecidableEq

def isDigit (c : Char) : Bool :=
  '0' ≤ c && c ≤ '9'

def numberOf (digits : List Char) : Nat :=
  digits.foldl (fun n c => 10 * n + (c.toNat - '0'.toNat)) 0

/-- The number that a text in the plain form writes. Too many digits are a fault of their own, whatever
follows them. -/
def readPlain (cs : List Char) : Except Fault Int :=
  let negative := cs.head? = some '-'
  let unsigned := if negative then cs.drop 1 else cs
  let digits := unsigned.takeWhile isDigit
  if digits.isEmpty || (digits.head? = some '0' && 1 < digits.length) then .error .unreadable
  else if OversizedNumber.maxDigits < digits.length then .error .tooLong
  else if digits.length < unsigned.length then .error .unreadable
  else .ok (if negative then -(numberOf digits : Int) else numberOf digits)

/-- The text behind zeros and underscores, of which `last` is the last one so far. A zero stays where nothing
or a point follows. -/
def behindZeros? (last : Char) : List Char → Option (List Char)
  | [] => some [last]
  | c :: cs =>
    if c = '0' || c = '_' then behindZeros? c cs
    else if c = '.' then some (last :: c :: cs)
    else if isDigit c || c = '-' then some (c :: cs)
    else none

/-- The text without the zeros at its start. -/
def withoutZeros? : List Char → Option (List Char)
  | [] => none
  | c :: cs =>
    if c = '0' then behindZeros? c cs
    else if isDigit c || c = '-' then some (c :: cs)
    else none

/-- The text without a fraction of zeros. -/
def withoutFraction (cs : List Char) : List Char :=
  let whole := cs.takeWhile (· ≠ '.')
  match cs.drop whole.length with
  | [] => cs
  | _ :: fraction => if !fraction.isEmpty && fraction.all (· = '0') then whole else cs

/-- The text without underscores, which may stand neither at an end nor side by side. -/
def withoutUnderscores? (cs : List Char) : Option (List Char) :=
  if cs.head? = some '_' || cs.getLast? = some '_' || Text.contains ['_', '_'] cs then none
  else some (cs.filter (· ≠ '_'))

/-- The digits of an unsigned text in their plain form. -/
def plainDigits? (cs : List Char) : Option (List Char) :=
  (withoutZeros? cs).bind fun cs => withoutUnderscores? (withoutFraction cs)

/-- The plain form of a text, as far as it has one. -/
def plainForm? : List Char → Option (List Char)
  | '-' :: cs => (plainDigits? cs).map ('-' :: ·)
  | '+' :: '-' :: _ => none
  | '+' :: cs => plainDigits? cs
  | cs => plainDigits? cs

/-- The integer that a text writes between white space. Only a text that is in the plain form as it stands can
have too many digits; one that has to be brought into it is then unreadable. -/
def read (cs : List Char) : Except Fault Int :=
  match readPlain cs with
  | .error .unreadable =>
    match (plainForm? (Text.trimBy Text.isWhiteSpace cs)).map readPlain with
    | some (.ok n) => .ok n
    | _ => .error .unreadable
  | outcome => outcome

end SchemaScribe.Document.IntegerText
