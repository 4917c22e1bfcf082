/-!
Octets written in base 64. Characters that are no digits of it say nothing, so that line ends and blanks may
stand anywhere; padding ends the text as soon as it completes a group of four.
-/

namespace SchemaScribe.Text.Base64

def digitValue? (c : Char) : Option Nat :=
  if 'A' ≤ c && c ≤ 'Z' then some (c.toNat - 'A'.toNat)
  else if 'a' ≤ c && c ≤ 'z' then some (c.toNat - 'a'.toNat + 26)
  else if '0' ≤ c && c ≤ '9' then some (c.toNat - '0'.toNat + 52)
  else if c = '+' then some 62
  else if c = '/' then some 63
  else none

/-- The digits of a group that are still to be completed: their number and the value that they write. -/
structure Group where
  digits : Nat
  value : Nat
  /-- The marks of padding behind the last digit. -/
  marks : Nat

namespace Group

def empty : Group :=
  ⟨0, 0, 0⟩

def add (digit : Nat) (group : Group) : Group :=
  ⟨group.digits + 1, 64 * group.value + digit, 0⟩

/-- The octets that the digits of a group determine. -/
def octets (group : Group) : List UInt8 :=
  match group.digits with
  | 2 => [UInt8.ofNat (group.value / 16)]
  | 3 => [UInt8.ofNat (group.value / 1024), UInt8.ofNat (group.value / 4)]
  | 4 => [UInt8.ofNat (group.value / 65536), UInt8.ofNat (group.value / 256), UInt8.ofNat group.value]
  | _ => []

end Group

/-- The octets of a text that goes on after a group has begun. A group that is never completed has none. -/
def decodeFrom? (group : Group) : List Char → Option (List UInt8)
  | [] => if group.digits = 0 then some [] else none
  | c :: cs =>
    if c = '=' then
      if group.digits < 2 then decodeFrom? group cs
      else if 4 ≤ group.digits + group.marks + 1 then some group.octets
      else decodeFrom? { group with marks := group.marks + 1 } cs
    else
      match digitValue? c with
      | none => decodeFrom? group cs
      | some digit =>
        let group := group.add digit
        if group.digits = 4 then (decodeFrom? .empty cs).map (group.octets ++ ·) else decodeFrom? group cs

def decode? (cs : List Char) : Option (List UInt8) :=
  decodeFrom? .empty cs

end SchemaScribe.Text.Base64
