import SchemaScribe.Diagram.Document
import SchemaScribe.Entries
import SchemaScribe.Relationship.Classified

/-!
Error reports: a message with a code, the context in which the error arose and suggestions what to do. Each
kind of report has a code and suggestions of its own.
-/

namespace SchemaScribe

inductive ReportKind where
  | general
  | reference
  | configuration
  | load
  deriving Repr, DecidableEq

inductive ContextValue where
  | text (s : String)
  | integer (n : Int)
  | boolean (b : Bool)
  | nothing
  deriving Repr, DecidableEq

/-- Context keys are distinct and keep their order. -/
structure Report where
  kind : ReportKind
  message : String
  code : Option String
  context : List (String × ContextValue)
  suggestions : List String
  deriving Repr, DecidableEq

namespace ContextValue

def render : ContextValue → String
  | text s => s
  | integer n => toString n
  | boolean true => "True"
  | boolean false => "False"
  | nothing => "None"

end ContextValue

namespace ReportKind

def name : ReportKind → String
  | general => "SQLAAutoGeneratorError"
  | reference => "DiagramReferenceError"
  | configuration => "ConfigurationError"
  | load => "DiagramLoadError"

def code? : ReportKind → Option String
  | general => none
  | reference => some "REFERENCE_ERROR"
  | configuration => some "CONFIG_ERROR"
  | load => some "DIAGRAM_LOAD_ERROR"

/-- The context keys that reports of a kind fill in. -/
def contextKeys : ReportKind → List String
  | general => []
  | reference => ["relationship_id", "table_id", "field_id"]
  | configuration => ["config_file"]
  | load => ["diagram_file"]

def suggestions : ReportKind → List String
  | general => []
  | reference =>
    ["Check that both relationship endpoints exist in the diagram",
      "Remove relationships left behind by deleted tables or fields"]
  | configuration =>
    ["Check the configuration file syntax",
      "Verify option values against the documented defaults"]
  | load =>
    ["Export the diagram again as JSON",
      "Check that every table, field and relationship has the required keys"]

end ReportKind

namespace Report

/-- Sets the given context keys, those with an empty value left out. -/
def withContext (context : List (String × ContextValue)) (values : List (String × Option String)) :
    List (String × ContextValue) :=
  values.foldl
    (fun context (key, value) =>
      match nonEmpty value with
      | some value => Entries.set key (.text value) context
      | none => context)
    context

/-- A report of a kind. The kind decides which of the given values belong to the context, the code unless
it has none, and the suggestions unless some are given. -/
def ofKind (kind : ReportKind) (message : String) (code : Option String) (values : String → Option String)
    (context : List (String × ContextValue)) (suggestions : List String) : Report where
  kind := kind
  message := message
  code := kind.code?.or code
  context := withContext context (kind.contextKeys.map fun key => (key, values key))
  suggestions := if suggestions.isEmpty then kind.suggestions else suggestions

/-- A report with a value for one context key and nothing else of its own. -/
def about (kind : ReportKind) (message : String) (key : String) (value : Option String) : Report :=
  ofKind kind message none (fun k => if k = key then value else none) [] []

def configuration (message : String) (file : Option String) : Report :=
  about .configuration message "config_file" file

def load (message : String) (file : Option String) : Report :=
  about .load message "diagram_file" file

def codeLines (r : Report) : List String :=
  (nonEmpty r.code).toList.map fun code => s!"Error Code: {code}"

def contextLines (r : Report) : List String :=
  if r.context.isEmpty then []
  else "Context:" :: r.context.map fun (key, value) => s!"  {key}: {value.render}"

def suggestionLines (r : Report) : List String :=
  if r.suggestions.isEmpty then []
  else "Suggestions:" :: r.suggestions.map fun suggestion => s!"  • {suggestion}"

/-- The report in full, a line for each of its parts. -/
def render (r : Report) : String :=
  "\n".intercalate (r.message :: r.codeLines ++ r.contextLines ++ r.suggestionLines)

end Report

namespace DanglingReference

def message : DanglingReference → String
  | unknownTable _ tableId => s!"Relationship references unknown table id '{tableId}'"
  | unknownField _ _ tableName fieldId =>
    s!"Relationship references unknown field id '{fieldId}' in table '{tableName}'"

/-- The ids that are involved, by context key. -/
def ids : DanglingReference → String → Option String
  | unknownTable relationshipId tableId, key =>
    if key = "relationship_id" then relationshipId else if key = "table_id" then some tableId else none
  | unknownField relationshipId tableId _ fieldId, key =>
    if key = "relationship_id" then relationshipId
    else if key = "table_id" then some tableId
    else if key = "field_id" then some fieldId
    else none

def report (e : DanglingReference) : Report :=
  Report.ofKind .reference e.message none e.ids [] []

end DanglingReference

namespace DocumentError

def report (e : DocumentError) (file : Option String) : Report :=
  Report.load e.message file

end DocumentError

end SchemaScribe
