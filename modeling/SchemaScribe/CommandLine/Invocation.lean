import SchemaScribe.CommandLine.Argument

/-!
Invocations: what the arguments of the command line ask for. Switches are obeyed from left to right, so that
of a repeated one the last counts, and help is given as soon as it is asked for. Arguments without a place
are refused at the end.
-/

namespace SchemaScribe.CommandLine

/-- The value of a switch. A value that is the mark of the end of the switches says nothing. -/
inductive SwitchValue where
  | text (s : String)
  | nothing
  deriving Repr, DecidableEq

namespace SwitchValue

def ofText (cs : List Char) : SwitchValue :=
  if cs = ['-', '-'] then nothing else text (String.ofList cs)

def text? : SwitchValue → Option String
  | text s => some s
  | nothing => none

end SwitchValue

structure Invocation where
  diagram : Option String := none
  config : Option SwitchValue := none
  outputFile : Option SwitchValue := none
  cascade : Option SwitchValue := none
  format : Bool := false
  verbose : Bool := false
  noColour : Bool := false
  deriving Repr, DecidableEq

inductive Request where
  | help
  | run (invocation : Invocation)
  deriving Repr, DecidableEq

/-- How an argument with switches ends: with nothing more, with the value of a switch, or with a switch whose
value is the next argument. -/
inductive GroupEnd where
  | complete
  | value (s : Switch) (text : List Char)
  | awaiting (s : Switch)
  deriving Repr, DecidableEq

/-- The switches without a value in one argument, and how the argument ends. -/
structure Group where
  flags : List Switch
  ending : GroupEnd
  deriving Repr, DecidableEq

namespace Group

/-- The group of a switch that nothing is attached to. -/
def ofSwitch (s : Switch) : Group :=
  if s.takesValue then ⟨[], .awaiting s⟩ else ⟨[s], .complete⟩

def withFlag (s : Switch) (group : Group) : Group :=
  { group with flags := s :: group.flags }

/-- The group of a switch with the text attached to it. Behind a switch without a value, the text goes on with
the letter of another switch. -/
def ofLetters (s : Switch) : List Char → Except UsageFault Group
  | [] => if s.takesValue then .ok ⟨[], .value s []⟩ else .error (.unexpectedValue s [])
  | c :: rest =>
    if s.takesValue then .ok ⟨[], .value s (c :: rest)⟩
    else
      match Switch.ofLetter? c with
      | none => .error (.unexpectedValue s (c :: rest))
      | some next =>
        if rest.isEmpty then .ok ((ofSwitch next).withFlag s)
        else (ofLetters next rest).map (withFlag s)

/-- The group of a switch with what is attached to it. To a long spelling only a value can be attached. -/
def ofArgument (s : Switch) (isLong : Bool) (attached : Option (List Char)) : Except UsageFault Group :=
  match attached with
  | none => .ok (ofSwitch s)
  | some text =>
    if isLong && !s.takesValue then .error (.unexpectedValue s text) else ofLetters s text

def asksForHelp (group : Group) : Bool :=
  group.flags.contains .help

end Group

namespace Invocation

def setFlag (i : Invocation) : Switch → Invocation
  | .format => { i with format := true }
  | .verbose => { i with verbose := true }
  | .noColour => { i with noColour := true }
  | .help => i
  | .config => i
  | .outputFile => i
  | .cascade => i

def setValue (i : Invocation) (s : Switch) (value : SwitchValue) : Invocation :=
  match s with
  | .config => { i with config := some value }
  | .outputFile => { i with outputFile := some value }
  | .cascade => { i with cascade := some value }
  | .help => i
  | .format => i
  | .verbose => i
  | .noColour => i

def configFile? (i : Invocation) : Option String :=
  i.config.bind SwitchValue.text?

end Invocation

/-- How far the arguments have been obeyed. -/
structure Progress where
  invocation : Invocation := {}
  /-- Whether the place of the diagram is taken. -/
  hasDiagram : Bool := false
  leftOver : List String := []
  deriving Repr, DecidableEq

namespace Progress

def leave (p : Progress) (argument : String) : Progress :=
  { p with leftOver := p.leftOver ++ [argument] }

/-- The first word is the diagram. -/
def addWord (p : Progress) (word : String) : Progress :=
  if p.hasDiagram then p.leave word
  else { p with invocation := { p.invocation with diagram := some word }, hasDiagram := true }

def setFlags (p : Progress) (flags : List Switch) : Progress :=
  { p with invocation := flags.foldl Invocation.setFlag p.invocation }

def setValue (p : Progress) (s : Switch) (value : SwitchValue) : Progress :=
  { p with invocation := p.invocation.setValue s value }

/-- Obeys a group that is complete in itself. -/
def addGroup (p : Progress) (group : Group) : Progress :=
  match group.ending with
  | .complete => p.setFlags group.flags
  | .value s text => (p.setFlags group.flags).setValue s (.ofText text)
  | .awaiting _ => p.setFlags group.flags

def finish (p : Progress) : Except UsageFault Request :=
  if p.leftOver.isEmpty then .ok (.run p.invocation) else .error (.unrecognized p.leftOver)

/-- Obeys arguments in order. The end of the switches says no more than that where it stands directly before or
behind the diagram, or where no diagram is named; elsewhere it has no place. -/
def obey (p : Progress) : List Argument → Except UsageFault Request
  | [] => p.finish
  | .word w :: .endOfSwitches :: rest =>
    if p.hasDiagram then obey ((p.leave w).leave "--") rest else obey (p.addWord w) rest
  | .word w :: rest => obey (p.addWord w) rest
  | .endOfSwitches :: rest => obey (if p.hasDiagram then p.leave "--" else p) rest
  | .unknown text :: rest => obey (p.leave text) rest
  | .switch s isLong attached :: rest =>
    match Group.ofArgument s isLong attached with
    | .error fault => .error fault
    | .ok group =>
      match group.ending, rest with
      | .awaiting s, .word value :: rest =>
        if group.asksForHelp then .ok .help
        else obey ((p.setFlags group.flags).setValue s (.text value)) rest
      | .awaiting s, _ => .error (.missingValue s)
      | _, rest => if group.asksForHelp then .ok .help else obey (p.addGroup group) rest

end Progress

def Request.ofArguments (arguments : List String) : Except UsageFault Request :=
  match Argument.readAll arguments with
  | .error fault => .error fault
  | .ok arguments => Progress.obey {} arguments

end SchemaScribe.CommandLine
