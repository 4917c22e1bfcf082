import SchemaScribe.CommandLine.Formatting
import SchemaScribe.CommandLine.Help
import SchemaScribe.CommandLine.Invocation
import SchemaScribe.Configuration
import SchemaScribe.DiagramFile
import SchemaScribe.Narration

/-!
Runs of the tool: configuration, diagram, models, output. Nothing is printed or written before the models
are complete, and at most once.
-/

namespace SchemaScribe.CommandLine

open Document (Problem Value)

/-- What ends a run early. -/
inductive Failure where
  | configuration (file : Option String) (e : ConfigurationError)
  | diagram (file : LooseText) (e : DiagramFileError)
  | options (problems : List Problem)
  | generation (e : GenerationError)
  | output (fault : FileFault)
  deriving Repr

namespace Failure

def report? : Failure → Option Report
  | configuration file e => e.report? file
  | diagram file e => e.report? file
  | generation (.dangling e) => some e.report
  | generation (.oversized _) => none
  | options _ => none
  | output _ => none

/-- A fault of the system that no report tells of is told as one of the output. -/
def outputMessage? (fault : FileFault) : Option String :=
  if fault.cause.isOfSystem then some ("Could not write output: " ++ fault.message) else none

/-- What is told of a failure, if it is one that a run is prepared for. -/
def message? : Failure → Option String
  | output fault => outputMessage? fault
  | configuration _ (.inaccessible fault) => outputMessage? fault
  | failure => failure.report?.map fun r => r.kind.name ++ ": " ++ r.render

/-- Ends a run with a report on its failure, if it is prepared for that. -/
def conclude (failure : Failure) : Session Failure Nat :=
  match failure.message? with
  | some message => .report ⟨.error, message⟩ (.finish 1)
  | none => .fail failure

/-- What is wrong where a failure has no report. -/
def cause : Failure → String
  | configuration _ (.unread fault) => fault.message
  | diagram _ (.unread fault) => fault.message
  | diagram _ (.unreadable fault) => fault.message
  | output fault => fault.message
  | generation (.oversized number) => number.message
  | options problems => Problem.renderAll problems
  | failure => failure.message?.getD ""

end Failure

/-! ### Configuration -/

/-- The setting that a switch makes. Without a text it is an empty list, which no setting can be. -/
def SwitchValue.setting : SwitchValue → Value
  | text s => .text s
  | nothing => .list []

namespace Invocation

def settings (i : Invocation) : List (String × Value) :=
  (i.diagram.map fun s => ("input_file", Value.text s)).toList
    ++ (i.outputFile.map fun value => ("output_file", value.setting)).toList
    ++ (i.cascade.map fun value => ("cascade", value.setting)).toList
    ++ if i.format then [("format_code", .bool true)] else []

end Invocation

def quotedOrNone : Option LooseText → String
  | some s => s.quoted
  | none => "None"

def settingsRecord (c : Configuration) : Console.Record :=
  let format := if c.formatCode then "True" else "False"
  let files := s!"input_file={quotedOrNone c.inputFile} output_file={quotedOrNone c.outputFile}"
  let cascade := quotedOrNone (c.cascade.map .proper)
  ⟨.debug, s!"Effective configuration loaded: {files} format_code={format} cascade={cascade}"⟩

def configure (i : Invocation) : Session ConfigurationError (Configuration × LooseText) := do
  Session.reportOne (Console.progress "Loading configuration...")
  let c ← Configuration.load i.configFile? i.settings
  match LooseText.nonEmpty c.inputFile with
  | none => .fail .noDiagram
  | some file =>
    Session.reportAll
      [Console.success "Configuration loaded and validated successfully.", settingsRecord c]
    return (c, file)

/-! ### Diagram and models -/

def foundMessage (d : Diagram) : String :=
  s!"Found {d.tables.length} tables and {d.relationships.length} relationships ({d.databaseType.name})"

def loadDiagram (file : LooseText) : Session DiagramFileError Diagram := do
  Session.reportAll (Console.sectionTitle "Diagram" ++ [Console.progress s!"Loading diagram {file}..."])
  let d ← Diagram.load file
  Session.reportOne (Console.highlight (foundMessage d))
  return d

def generate (d : Diagram) (options : Options) : Session GenerationError String := do
  Session.reportAll
    (Console.sectionTitle "Model Generation" ++ [Console.progress "Generating SQLAlchemy models..."]
      ++ (d.generationNotes options).map (Console.Record.mk .debug))
  Session.ofExcept (d.modelsModule options)

/-! ### Output -/

/-- The models as they go out: formatted if that is asked for. -/
def formatModels (formatter : CodeFormatter) (c : Configuration) (code : String) : Session Failure String := do
  if c.formatCode then
    let formatting := formatter code
    Session.reportAll (formatting.records ((LooseText.nonEmpty c.outputFile).getD "<stdout>"))
    return formatting.textFor code
  else return code

/-- Writes the models to the output file, or prints them where none is named. -/
def deliver (outputFile : Option LooseText) (code : String) : Session FileFault Unit := do
  match LooseText.nonEmpty outputFile with
  | some file =>
    let path := Path.ofText file
    Session.writeFile path code
    Session.reportOne (Console.success s!"Models written to {path.render}")
  | none =>
    Session.printText code
    Session.reportOne (Console.success "Models generated successfully.")

/-- Gives out the models of a diagram. One without tables has none. -/
def publish (formatter : CodeFormatter) (c : Configuration) (code : String) : Session Failure Unit := do
  if code = "" then
    Session.reportOne ⟨.warning, "The diagram has no tables. Nothing was written."⟩
  else
    let code ← formatModels formatter c code
    (deliver c.outputFile code).mapFailure .output

/-! ### Runs -/

namespace Invocation

/-- A run as far as its first failure. -/
def attempt (formatter : CodeFormatter) (i : Invocation) : Session Failure Unit := do
  let (c, file) ← (configure i).mapFailure (.configuration i.configFile?)
  let d ← (loadDiagram file).mapFailure (.diagram file)
  match c.options with
  | .invalid problems => .fail (.options problems)
  | .valid options =>
    let code ← (generate d options).mapFailure .generation
    publish formatter c code

/-- A run with its exit status. Failures that it is prepared for are reported. -/
def run (formatter : CodeFormatter) (i : Invocation) : Session Failure Nat := do
  if i.verbose then
    Session.reportOne ⟨.debug, "Verbose mode enabled. DEBUG level logging activated."⟩
  ((i.attempt formatter).bind fun _ => .finish 0).recover Failure.conclude

def consoleSettings (i : Invocation) : Console.Settings :=
  ⟨if i.verbose then .debug else .info, !i.noColour⟩

end Invocation

/-- The exit status of a run. A failure that it is not prepared for gives the common one. -/
def exitStatus : Except Failure Nat → Nat
  | .ok status => status
  | .error _ => 1

/-- What has come of a command line: the exit status, the texts on both outputs, and the files. -/
structure Outcome where
  status : Nat
  output : String
  errorOutput : String
  files : FileTree
  /-- The failure that has ended the run, if it was not prepared for it. -/
  failure : Option Failure := none

def failure? : Except Failure Nat → Option Failure
  | .ok _ => none
  | .error failure => some failure

/-- Carries a command line out on a file system. The error output may be a terminal. -/
def outcome (files : FileTree) (isTerminal : Bool) (arguments : List String)
    (formatter : CodeFormatter := .unavailable) : Outcome :=
  match Request.ofArguments arguments with
  | .error fault => { status := 2, output := "", errorOutput := fault.report, files := files }
  | .ok .help => { status := 0, output := helpText, errorOutput := "", files := files }
  | .ok (.run i) =>
    let transcript := (i.run formatter).on files
    { status := exitStatus transcript.result
      output := transcript.printed
      errorOutput := i.consoleSettings.show isTerminal transcript.records
      files := transcript.files
      failure := failure? transcript.result }

/-- The outcome of a command line, or the failure that its run was not prepared for. -/
def execute (files : FileTree) (isTerminal : Bool) (arguments : List String)
    (formatter : CodeFormatter := .unavailable) : Except Failure Outcome :=
  let outcome := outcome files isTerminal arguments formatter
  match outcome.failure with
  | none => .ok outcome
  | some failure => .error failure

end SchemaScribe.CommandLine
