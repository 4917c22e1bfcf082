import SchemaScribe.CommandLine.Switch
import SchemaScribe.Text.DecimalDigit
import SchemaScribe.Text.Quoted

/-!
Single arguments of the command line. An argument is a word, the mark after which all arguments are words, a
switch, or something that looks like a switch and is none. Words may start with a dash where they are that
dash, a negative number or contain a space.
-/

namespace SchemaScribe.CommandLine

/-- A switch may have a text attached to it, after an equals sign or directly after its letter. -/
inductive Argument where
  | word (text : String)
  | endOfSwitches
  | switch (s : Switch) (isLong : Bool) (attached : Option (List Char))
  | unknown (text : String)
  deriving Repr, DecidableEq

inductive UsageFault where
  | ambiguous (argument : String) (candidates : List Switch)
  | missingValue (s : Switch)
  | unexpectedValue (s : Switch) (value : List Char)
  | unrecognized (arguments : List String)
  deriving Repr, DecidableEq

namespace Argument

/-- A minus sign and decimal digits, with a point anywhere before the last of them. -/
def isNegativeNumber (cs : List Char) : Bool :=
  match Text.withoutFinalLineFeed cs with
  | '-' :: number =>
    let whole := number.takeWhile Text.isDecimalDigit
    match number.drop whole.length with
    | [] => !whole.isEmpty
    | '.' :: fraction => !fraction.isEmpty && fraction.all Text.isDecimalDigit
    | _ => false
  | _ => false

/-- The text before the first equals sign, and the one after it if there is one. -/
def splitAtEquals (cs : List Char) : List Char × Option (List Char) :=
  let before := cs.takeWhile (· ≠ '=')
  match cs.drop before.length with
  | _ :: value => (before, some value)
  | [] => (before, none)

/-- An argument that is no spelling of a switch. -/
def ofOther (cs : List Char) : Argument :=
  if isNegativeNumber cs || cs.contains ' ' then .word (String.ofList cs) else .unknown (String.ofList cs)

/-- An argument that starts with two dashes: a long spelling, which may be cut short. -/
def ofLong (cs : List Char) : Except UsageFault Argument :=
  let (spelling, attached) := splitAtEquals cs
  match Switch.ofLong? (String.ofList spelling) with
  | some s => .ok (.switch s true attached)
  | none =>
    match Switch.abbreviatedBy spelling with
    | [] => .ok (ofOther cs)
    | [s] => .ok (.switch s true attached)
    | candidates => .error (.ambiguous (String.ofList cs) candidates)

/-- An argument that starts with one dash and a letter: the rest is attached to the switch of that letter,
without an equals sign at its start. -/
def ofShort (letter : Char) (rest : List Char) : Argument :=
  match Switch.ofLetter? letter, rest with
  | some s, [] => .switch s false none
  | some s, '=' :: value => .switch s false (some value)
  | some s, rest => .switch s false (some rest)
  | none, rest => ofOther ('-' :: letter :: rest)

def ofString (s : String) : Except UsageFault Argument :=
  match s.toList with
  | '-' :: '-' :: cs => ofLong ('-' :: '-' :: cs)
  | '-' :: letter :: rest => .ok (ofShort letter rest)
  | _ => .ok (.word s)

/-- Reads arguments in order. After the end of the switches all are words. -/
def readAll : List String → Except UsageFault (List Argument)
  | [] => .ok []
  | s :: rest =>
    if s = "--" then .ok (.endOfSwitches :: rest.map .word)
    else
      match ofString s with
      | .error fault => .error fault
      | .ok argument =>
        match readAll rest with
        | .error fault => .error fault
        | .ok arguments => .ok (argument :: arguments)

end Argument

namespace UsageFault

def message : UsageFault → String
  | ambiguous argument candidates =>
    let list := ", ".intercalate (candidates.map Switch.long)
    s!"ambiguous option: {argument} could match {list}"
  | missingValue s => s!"argument {s.label}: expected one argument"
  | unexpectedValue s value =>
    s!"argument {s.label}: ignored explicit argument " ++ Text.quoted (String.ofList value)
  | unrecognized arguments => "unrecognized arguments: " ++ " ".intercalate arguments

end UsageFault

end SchemaScribe.CommandLine
