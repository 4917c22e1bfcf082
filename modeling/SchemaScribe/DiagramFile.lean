import SchemaScribe.Diagram.Document
import SchemaScribe.Document.Format
import SchemaScribe.Report
import SchemaScribe.Session

/-!
Loading diagrams from files. The suffix of a file decides in which format it is read.
-/

namespace SchemaScribe

open Document

inductive DiagramFileError where
  | unreadable (fault : FileFault)
  | unread (fault : ReadFault)
  | document (error : DocumentError)
  deriving Repr

namespace DiagramFileError

/-- The report on a file that cannot be read, decoded or understood. Octets that are no text and values
that cannot be made have none, and nor has a path that is not handed to the system. -/
def report? (file : String) : DiagramFileError → Option Report
  | unreadable fault =>
    if fault.cause.isOfSystem then some (Report.load ("Could not read diagram file: " ++ fault.message) (some file))
    else none
  | unread (.undecodable _) => none
  | unread (.scalar _) => none
  | unread (.oversized _) => none
  | unread (.tooDeep _) => none
  | unread fault => some (Report.load ("Could not decode diagram file: " ++ fault.message) (some file))
  | document error => some (error.report (some file))

end DiagramFileError

namespace Diagram

def parsedRecord (d : Diagram) : Console.Record :=
  ⟨.debug, s!"Parsed diagram with {d.tables.length} tables and {d.relationships.length} relationships"⟩

def load (file : LooseText) : Session DiagramFileError Diagram := do
  let path := Path.ofText file
  let octets ← (Session.readFile path).mapFailure .unreadable
  let v ← Session.ofExcept ((Format.ofSuffix path.suffix).read octets) |>.mapFailure .unread
  Session.reportOne ⟨.debug, s!"Loaded diagram document from {file}"⟩
  let d ← Session.ofExcept (ofValue v) |>.mapFailure .document
  Session.reportOne d.parsedRecord
  return d

end Diagram

end SchemaScribe
