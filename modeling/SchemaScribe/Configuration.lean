import SchemaScribe.Document.Format
import SchemaScribe.Options
import SchemaScribe.Report
import SchemaScribe.Session

/-!
The configuration of a run: settings from a YAML file, overridden by those that are given directly. A file
that is not there is an empty one.
-/

namespace SchemaScribe

open Document

structure Configuration where
  inputFile : Option LooseText := none
  outputFile : Option LooseText := none
  formatCode : Bool := false
  cascade : Option String := none
  deriving Repr, DecidableEq

inductive ConfigurationError where
  /-- Whether there is a file cannot be said. -/
  | inaccessible (fault : FileFault)
  | unreadable (fault : FileFault)
  | unread (fault : ReadFault)
  | notAMapping
  | invalid (problems : List Problem)
  | noDiagram
  deriving Repr

namespace ConfigurationError

/-- What is wrong with a configuration file. Files out of reach, octets that are no text and values that cannot
be made have no message. -/
def message? (file : String) : ConfigurationError → Option String
  | inaccessible _ => none
  | unreadable fault => some (s!"Error reading config file {file}: " ++ fault.message)
  | unread (.undecodable _) => none
  | unread (.scalar _) => none
  | unread (.oversized _) => none
  | unread (.tooDeep _) => none
  | unread fault => some (s!"Error parsing YAML file {file}: " ++ fault.message)
  | notAMapping => some s!"Content in config file {file} is not a mapping"
  | invalid problems => some ("Configuration validation failed: " ++ Problem.renderAll problems)
  | noDiagram => some "No diagram file given on the command line or in the configuration"

def report? (file : Option String) (e : ConfigurationError) : Option Report :=
  (e.message? (file.getD "")).map fun message => Report.configuration message file

end ConfigurationError

namespace Configuration

/-! ### Settings -/

/-- The names of the settings, in the order of the alphabet. -/
def settingNames : List String :=
  ["cascade", "format_code", "input_file", "output_file"]

/-- Whether a setting is given: null stands for one that is not. -/
def isGiven : Value → Bool
  | .null => false
  | _ => true

/-- The given settings; other entries are left out. -/
def givenSettings (given : List (String × Value)) : List (String × Value) :=
  given.filter fun (name, v) => settingNames.contains name && isGiven v

/-- The entries of a file overridden by the given settings. -/
def override (file given : List (String × Value)) : List (String × Value) :=
  givenSettings given ++ file

def check (entries : List (String × Value)) : Checked Configuration :=
  Configuration.mk
    <$> (Key.plain "input_file").withDefault none (Check.optional Check.looseText) entries
    <*> (Key.plain "output_file").withDefault none (Check.optional Check.looseText) entries
    <*> (Key.plain "format_code").withDefault false Check.boolean entries
    <*> (Key.plain "cascade").withDefault none (Check.optional checkCascade) entries

/-- The options of the generation run that a configuration asks for. -/
def options (c : Configuration) : Checked Options :=
  Options.check (c.cascade.toList.map fun cascade => ("cascade", .text cascade))

/-! ### Loading -/

def readEntries (file : String) : Session ConfigurationError (List (String × Value)) := do
  let path := Path.ofString file
  if ← (Session.askIsFile path).mapFailure .inaccessible then
    let octets ← (Session.readFile path).mapFailure .unreadable
    match ← Session.ofExcept (Format.yaml.read octets) |>.mapFailure .unread with
    | .null => return []
    | .object entries =>
      Session.reportOne ⟨.debug, s!"Loaded configuration from {file}"⟩
      return entries
    | _ => .fail .notAMapping
  else
    Session.reportOne
      ⟨.warning, s!"Config file not found at {file}. Using defaults and CLI arguments."⟩
    return []

/-- The entries of the file, if one is named. -/
def fileEntries (file : Option String) : Session ConfigurationError (List (String × Value)) :=
  match nonEmpty file with
  | some file => readEntries file
  | none => return []

/-- The record on the settings that have been given directly, if any have. -/
def overriddenRecords (given : List (String × Value)) : List Console.Record :=
  match settingNames.filter fun name => (givenSettings given).any (·.1 = name) with
  | [] => []
  | names =>
    let list := ", ".intercalate (names.map Text.quoted)
    [⟨.debug, s!"Overridden config keys from CLI arguments: [{list}]"⟩]

/-- The configuration of the entries of a file and of settings that are given directly. -/
def ofEntries (entries given : List (String × Value)) : Session ConfigurationError Configuration := do
  Session.reportAll (overriddenRecords given)
  match check (override entries given) with
  | .invalid problems => .fail (.invalid problems)
  | .valid c =>
    Session.reportOne ⟨.debug, "Configuration loaded and validated successfully."⟩
    return c

/-- The configuration of a file, which may be missing or empty, and of settings that are given directly. -/
def load (file : Option String) (given : List (String × Value)) :
    Session ConfigurationError Configuration := do
  ofEntries (← fileEntries file) given

end Configuration

end SchemaScribe
