/-!
Finding, cutting and joining pieces of text. Everything works on lists of characters, so that statements
about texts are statements about lists.
-/

namespace SchemaScribe.Text

/-- The rest of `cs` after `word`, where each character of `word` stands for those that match it. -/
def dropWord? (same : Char → Char → Bool) : List Char → List Char → Option (List Char)
  | [], cs => some cs
  | _ :: _, [] => none
  | w :: word, c :: cs => if same w c then dropWord? same word cs else none

def startsWith (word cs : List Char) : Bool :=
  word.isPrefixOf cs

/-- Whether some suffix of `cs` starts with `word`, up to `same`. -/
def containsBy (same : Char → Char → Bool) (word : List Char) : List Char → Bool
  | [] => (dropWord? same word []).isSome
  | c :: cs => (dropWord? same word (c :: cs)).isSome || containsBy same word cs

def contains (word cs : List Char) : Bool :=
  containsBy (· == ·) word cs

/-- What precedes one line feed at the end; a text without one stays as it is. -/
def withoutFinalLineFeed (cs : List Char) : List Char :=
  if cs.getLast? = some '\n' then cs.dropLast else cs

/-- The pieces between the occurrences of `separator`; one more than there are occurrences. -/
def splitOn (separator : Char) : List Char → List (List Char)
  | [] => [[]]
  | c :: cs =>
    if c = separator then [] :: splitOn separator cs
    else
      match splitOn separator cs with
      | [] => [[c]]
      | piece :: pieces => (c :: piece) :: pieces

def joinWith (separator : List Char) : List (List Char) → List Char
  | [] => []
  | [piece] => piece
  | piece :: pieces => piece ++ separator ++ joinWith separator pieces

/-- Writes each run of a carriage return and a line feed, and each lone line feed, as `replacement`. -/
def replaceLineBreaks (replacement : Char) : List Char → List Char
  | '\r' :: '\n' :: cs => replacement :: replaceLineBreaks replacement cs
  | c :: cs => (if c = '\n' then replacement else c) :: replaceLineBreaks replacement cs
  | [] => []

/-- Line feeds in place of both other line ends, the pair and the lone carriage return. -/
def unifyLineEnds : List Char → List Char
  | '\r' :: '\n' :: cs => '\n' :: unifyLineEnds cs
  | c :: cs => (if c = '\r' then '\n' else c) :: unifyLineEnds cs
  | [] => []

/-- The lower-case hexadecimal digits of `n`, padded with zeros on the left to `width`. -/
def hexDigits (width n : Nat) : List Char :=
  let digits := Nat.toDigits 16 n
  List.replicate (width - digits.length) '0' ++ digits

end SchemaScribe.Text
