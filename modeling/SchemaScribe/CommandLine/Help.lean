import SchemaScribe.CommandLine.Argument

/-!
The texts about the command line itself: usage, help, and the message on arguments that are refused.
-/

namespace SchemaScribe.CommandLine

def programName : String := "sqla-auto-generator"

def usageLines : List String :=
  ["usage: sqla-auto-generator [-h] [-c CONFIG] [-o OUTPUT_FILE]",
    "                           [--cascade CASCADE] [--format] [-v] [--no-color]",
    "                           [DIAGRAM]"]

def helpLines : List String :=
  usageLines ++
    ["",
      "Generate SQLAlchemy declarative models from a database diagram.",
      "",
      "positional arguments:",
      "  DIAGRAM               Diagram file (JSON or YAML). Overrides config file",
      "                        setting.",
      "",
      "options:",
      "  -h, --help            show this help message and exit",
      "  -c CONFIG, --config CONFIG",
      "                        Path to the YAML configuration file.",
      "  -o OUTPUT_FILE, --output-file OUTPUT_FILE",
      "                        File to write the models to (default: stdout).",
      "                        Overrides config file setting.",
      "  --cascade CASCADE     Cascade policy for one-to-many collections (default:",
      "                        \"all, delete-orphan\").",
      "  --format              Format the generated code with black.",
      "  -v, --verbose         Enable verbose DEBUG logging for the generator tool.",
      "  --no-color            Disable colored output (useful for CI/CD",
      "                        environments)."]

def lines (ls : List String) : String :=
  String.join (ls.map (· ++ "\n"))

def helpText : String := lines helpLines

def UsageFault.report (fault : UsageFault) : String :=
  lines (usageLines ++ [programName ++ ": error: " ++ fault.message])

end SchemaScribe.CommandLine
