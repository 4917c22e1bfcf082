import SchemaScribe.Text.Search

/-!
Reading octets as UTF-8. A fault names the first octet of the sequence that cannot be read, the octets of
it that were looked at, and why. Octets that arrive in pieces are read piece by piece, and then a fault is
counted from the start of its piece.
-/

namespace SchemaScribe.Text

inductive DecodeCause where
  | invalidStart
  | invalidContinuation
  | unexpectedEnd
  deriving Repr, DecidableEq

/-- The faulty sequence: where it starts, its octets up to the fault, and the cause. -/
structure DecodeFault where
  offset : Nat
  octets : List UInt8
  cause : DecodeCause
  deriving Repr, DecidableEq

namespace DecodeFault

def reason (fault : DecodeFault) : String :=
  match fault.cause with
  | .invalidStart => "invalid start byte"
  | .invalidContinuation => "invalid continuation byte"
  | .unexpectedEnd => "unexpected end of data"

/-- The octet by its value where there is one, and else the range of the octets. -/
def extent (fault : DecodeFault) : String :=
  match fault.octets with
  | [octet] => "byte 0x" ++ String.ofList (hexDigits 2 octet.toNat) ++ s!" in position {fault.offset}"
  | octets => s!"bytes in position {fault.offset}-{fault.offset + octets.length - 1}"

def message (fault : DecodeFault) : String :=
  "'utf-8' codec can't decode " ++ fault.extent ++ ": " ++ fault.reason

end DecodeFault

def isContinuation (octet : UInt8) : Bool :=
  0x80 ≤ octet && octet ≤ 0xbf

/-- The admissible second octets after a leading octet of three or four: no overlong form, no
surrogate, nothing past the last code point. -/
def isSecondOctet (lead second : UInt8) : Bool :=
  if lead = 0xe0 then 0xa0 ≤ second && second ≤ 0xbf
  else if lead = 0xed then 0x80 ≤ second && second ≤ 0x9f
  else if lead = 0xf0 then 0x90 ≤ second && second ≤ 0xbf
  else if lead = 0xf4 then 0x80 ≤ second && second ≤ 0x8f
  else isContinuation second

/-- The character of one sequence: the payload of the leading octet followed by six bits from each
continuation. -/
def charOfOctets (leadBits : Nat) (rest : List UInt8) : Char :=
  Char.ofNat (rest.foldl (fun n octet => 64 * n + octet.toNat % 64) leadBits)

/-- One character from the front of the octets, with the number of octets that it takes. A refusal gives
the octets of the sequence that were still admissible. -/
def decodeChar : List UInt8 → Except (List UInt8 × DecodeCause) (Char × Nat)
  | [] => .error ([], .unexpectedEnd)
  | lead :: rest =>
    if lead < 0x80 then .ok (Char.ofNat lead.toNat, 1)
    else if lead < 0xc2 then .error ([lead], .invalidStart)
    else if lead < 0xe0 then
      match rest with
      | [] => .error ([lead], .unexpectedEnd)
      | b :: _ =>
        if isContinuation b then .ok (charOfOctets (lead.toNat - 0xc0) [b], 2)
        else .error ([lead], .invalidContinuation)
    else if lead < 0xf0 then
      match rest with
      | [] => .error ([lead], .unexpectedEnd)
      | b :: rest =>
        if !isSecondOctet lead b then .error ([lead], .invalidContinuation)
        else
          match rest with
          | [] => .error ([lead, b], .unexpectedEnd)
          | c :: _ =>
            if isContinuation c then .ok (charOfOctets (lead.toNat - 0xe0) [b, c], 3)
            else .error ([lead, b], .invalidContinuation)
    else if lead < 0xf5 then
      match rest with
      | [] => .error ([lead], .unexpectedEnd)
      | b :: rest =>
        if !isSecondOctet lead b then .error ([lead], .invalidContinuation)
        else
          match rest with
          | [] => .error ([lead, b], .unexpectedEnd)
          | c :: rest =>
            if !isContinuation c then .error ([lead, b], .invalidContinuation)
            else
              match rest with
              | [] => .error ([lead, b, c], .unexpectedEnd)
              | d :: _ =>
                if isContinuation d then .ok (charOfOctets (lead.toNat - 0xf0) [b, c, d], 4)
                else .error ([lead, b, c], .invalidContinuation)
    else .error ([lead], .invalidStart)

/-- Decodes octet by octet; `skip` counts the octets of the last character that are still ahead. -/
def decodeUtf8From (offset skip : Nat) : List UInt8 → Except DecodeFault (List Char)
  | [] => .ok []
  | octet :: rest =>
    match skip with
    | skip + 1 => decodeUtf8From (offset + 1) skip rest
    | 0 =>
      match decodeChar (octet :: rest) with
      | .error (octets, cause) => .error ⟨offset, octets, cause⟩
      | .ok (c, width) => (decodeUtf8From (offset + 1) (width - 1) rest).map (c :: ·)

def decodeUtf8 (octets : List UInt8) : Except DecodeFault (List Char) :=
  decodeUtf8From 0 0 octets

/-- Whether a fault only says that the octets stop within a character. Half of a surrogate counts as such,
since its third octet has not been seen. -/
def DecodeFault.isIncomplete (fault : DecodeFault) (octets : List UInt8) : Bool :=
  fault.cause = .unexpectedEnd
    || match octets.drop fault.offset with
      | [lead, second] => lead = 0xed && 0xa0 ≤ second && second ≤ 0xbf
      | _ => false

/-- The characters that are complete, and the octets of one that is not. -/
def decodeComplete (octets : List UInt8) : Except DecodeFault (List Char × List UInt8) :=
  match decodeUtf8 octets with
  | .ok cs => .ok (cs, [])
  | .error fault =>
    if fault.isIncomplete octets then
      (decodeUtf8 (octets.take fault.offset)).map fun cs => (cs, octets.drop fault.offset)
    else .error fault

/-- Decodes pieces in order; `pending` is what the pieces so far have left over. -/
def decodePieces (pending : List UInt8) : List (List UInt8) → Except DecodeFault (List Char)
  | [] => decodeUtf8 pending
  | piece :: pieces =>
    match decodeComplete (pending ++ piece) with
    | .error fault => .error fault
    | .ok (cs, rest) => (decodePieces rest pieces).map (cs ++ ·)

/-- The list cut into pieces of a size, the last of which may be shorter. -/
def cutInto (size : Nat) (xs : List α) : List (List α) :=
  (List.range ((xs.length + size - 1) / size)).map fun i => (xs.drop (i * size)).take size

end SchemaScribe.Text
