/-!
Texts given by code points. Halves of surrogate pairs are code points too, but no characters: a text in which
one is left over can be shown only with a substitute.
-/

namespace SchemaScribe.Text

def isHighHalf (code : Nat) : Bool :=
  0xd800 ≤ code && code ≤ 0xdbff

def isLowHalf (code : Nat) : Bool :=
  0xdc00 ≤ code && code ≤ 0xdfff

/-- Whether a code point is half of a surrogate pair. -/
def isHalf (code : Nat) : Bool :=
  isHighHalf code || isLowHalf code

def joinHalves (high low : Nat) : Nat :=
  0x10000 + (high - 0xd800) * 0x400 + (low - 0xdc00)

/-- The character of a code point; the replacement character stands for half of a pair. -/
def shownChar (code : Nat) : Char :=
  if isHalf code then '\ufffd' else Char.ofNat code

/-- The characters of code points, in which the halves of a pair that stand side by side are joined. -/
def shownChars : List Nat → List Char
  | [] => []
  | [code] => [shownChar code]
  | high :: low :: codes =>
    if isHighHalf high && isLowHalf low then Char.ofNat (joinHalves high low) :: shownChars codes
    else shownChar high :: shownChars (low :: codes)

/-- The code points of characters, in which the given ones take the place of substitutes, in their order. -/
def withSubstituted : List Nat → List Char → List Nat
  | _, [] => []
  | code :: codes, c :: cs =>
    if c = '\ufffd' then code :: withSubstituted codes cs else c.toNat :: withSubstituted (code :: codes) cs
  | [], cs => cs.map Char.toNat

/-- The text of code points that are all characters. -/
def ofCodes? (codes : List Nat) : Option String :=
  if codes.any isHalf then none else some (String.ofList (codes.map Char.ofNat))

/-- Code points that are no text, since halves of surrogate pairs are among them. -/
structure Broken where
  codes : List Nat
  hasHalf : codes.any isHalf = true
  deriving Repr, DecidableEq

namespace Broken

def shown (t : Broken) : String :=
  String.ofList (shownChars t.codes)

/-- The text with one character for each code point. -/
def substituted (t : Broken) : String :=
  String.ofList (t.codes.map shownChar)

end Broken

end SchemaScribe.Text
