import SchemaScribe.Document.Yaml.Cursor
import SchemaScribe.Document.Yaml.Fault
import SchemaScribe.Text.Search

/-!
Timestamps: a date of the Gregorian calendar, which may have a time of day and a zone.
-/

namespace SchemaScribe.Document.Yaml

structure TimeOfDay where
  hour : Nat
  minute : Nat
  second : Nat
  /-- The offset of the zone in minutes. -/
  zone : Option Int
  deriving Repr, DecidableEq

structure Timestamp where
  year : Nat
  month : Nat
  day : Nat
  time : Option TimeOfDay
  deriving Repr, DecidableEq

namespace Timestamp

/-! ### Reading -/

def natOfDigits (digits : List Char) : Nat :=
  digits.foldl (fun n c => 10 * n + (c.toNat - '0'.toNat)) 0

/-- The number written by between `least` and `most` digits, and the text behind it. -/
def number? (least most : Nat) (cs : List Char) : Option (Nat × List Char) :=
  let run := (cs.take most).takeWhile isDigit
  if least ≤ run.length then some (natOfDigits run, cs.drop run.length) else none

def afterChar? (c : Char) : List Char → Option (List Char)
  | [] => none
  | x :: xs => if x = c then some xs else none

/-- The offset that a text writes as a zone; the empty text writes none. -/
def zone? (cs : List Char) : Option (Option Int) :=
  match cs.dropWhile isBlank with
  | ['Z'] => some (some 0)
  | [] => if cs.isEmpty then some none else none
  | sign :: zone => do
    if sign ≠ '-' && sign ≠ '+' then none
    let (hours, rest) ← number? 1 2 zone
    let (minutes, rest) ←
      match rest with
      | ':' :: rest => number? 2 2 rest
      | rest => some (0, rest)
    let offset : Int := 60 * hours + minutes
    if rest.isEmpty then some (some (if sign = '-' then -offset else offset)) else none

/-- The time of day that a text writes; a fraction of the second is of no use. -/
def timeOfDay? (cs : List Char) : Option TimeOfDay := do
  let (hour, cs) ← number? 1 2 cs
  let (minute, cs) ← number? 2 2 (← afterChar? ':' cs)
  let (second, cs) ← number? 2 2 (← afterChar? ':' cs)
  let zone ← zone? (((afterChar? '.' cs).map (·.dropWhile isDigit)).getD cs)
  return ⟨hour, minute, second, zone⟩

/-- The text behind what separates a date and a time: blanks, or the letter T. -/
def afterSeparator? (cs : List Char) : Option (List Char) :=
  if cs.head?.any isBlank then some (cs.dropWhile isBlank)
  else (afterChar? 'T' cs).or (afterChar? 't' cs)

def readExact? (cs : List Char) : Option Timestamp := do
  let (year, cs) ← number? 4 4 cs
  let (month, cs) ← number? 1 2 (← afterChar? '-' cs)
  let (day, cs) ← number? 1 2 (← afterChar? '-' cs)
  if cs.isEmpty then return ⟨year, month, day, none⟩
  return ⟨year, month, day, some (← timeOfDay? (← afterSeparator? cs))⟩

/-- The timestamp that a text writes, which may end with a line feed. -/
def read? (cs : List Char) : Option Timestamp :=
  readExact? (Text.withoutFinalLineFeed cs)

/-- The length of a date with all its digits. -/
def dateLength : Nat := 10

/-- Whether a text has the form of a timestamp. A date alone has all its digits. -/
def isForm (cs : List Char) : Bool :=
  match readExact? cs with
  | some t => t.time.isSome || cs.length = dateLength
  | none => false

/-! ### The calendar -/

def isLeapYear (year : Nat) : Bool :=
  year % 4 = 0 && (year % 100 ≠ 0 || year % 400 = 0)

def daysOfMonth (year month : Nat) : Nat :=
  if month = 2 then (if isLeapYear year then 29 else 28)
  else if [4, 6, 9, 11].contains month then 30
  else 31

def minutesOfDay : Int := 1440

def checkZone (zone : Option Int) : Except TimeFault Unit :=
  match zone with
  | none => .ok ()
  | some minutes =>
    if -minutesOfDay < minutes && minutes < minutesOfDay then .ok () else .error (.zone minutes)

def checkDate (t : Timestamp) : Except TimeFault Unit :=
  if t.year = 0 then .error (.year t.year)
  else if t.month < 1 || 12 < t.month then .error .month
  else if t.day < 1 || daysOfMonth t.year t.month < t.day then .error .day
  else .ok ()

def checkTime (time : TimeOfDay) : Except TimeFault Unit :=
  if 23 < time.hour then .error .hour
  else if 59 < time.minute then .error .minute
  else if 59 < time.second then .error .second
  else .ok ()

/-- Whether there is such a point in time. The zone is looked at first. -/
def check (t : Timestamp) : Except TimeFault Unit := do
  match t.time with
  | none => t.checkDate
  | some time =>
    checkZone time.zone
    t.checkDate
    checkTime time

end Timestamp

end SchemaScribe.Document.Yaml
