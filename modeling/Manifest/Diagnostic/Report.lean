import Manifest.Diagnostic.Basic
import Manifest.Diagnostic.Code

/-!
# Reports

A report gathers the diagnostics of one run for other programs to read. What is not known about a
diagnostic is left out.
-/

namespace Manifest

/-- The diagnostics of one run. -/
structure Report where
  /-- The manifest that was compiled. -/
  file : String
  /-- The part of the compilation that has found the problems. -/
  phase : String
  diagnostics : List Diagnostic
  deriving DecidableEq

namespace Report

def version : Nat := 1

def count (report : Report) (severity : Severity) : Nat :=
  report.diagnostics.countP fun diagnostic => diagnostic.severity == severity

def errorCount (report : Report) : Nat := report.count .error

def warningCount (report : Report) : Nat := report.count .warning

def success (report : Report) : Bool := report.errorCount == 0

/-- A member that is left out if there is nothing to say. -/
def member? (name : String) (encode : α → Json) (content : Option α) : List (String × Json) :=
  (content.map fun known => (name, encode known)).toList

def locationJson (location : Location) : Json :=
  .object (member? "file" .string location.file
    ++ member? "line" (fun line => .integer line.toNat) location.line)

/-- The entry of a diagnostic. A known code comes with its title and category. -/
def entryJson (diagnostic : Diagnostic) : Json :=
  let info := diagnostic.code.bind CodeInfo.find?
  .object ([("severity", .string diagnostic.severity.name)]
    ++ member? "code" .string diagnostic.code
    ++ member? "title" (fun info => .string info.title) info
    ++ member? "category" (fun info => .string info.category.name) info
    ++ [("message", .string diagnostic.message)]
    ++ member? "location" locationJson diagnostic.location
    ++ (if diagnostic.notes.isEmpty then []
        else [("notes", .array (diagnostic.notes.map .string))])
    ++ member? "help" .string diagnostic.help)

def toJson (report : Report) : Json :=
  .object [
    ("version", .integer version),
    ("file", .string report.file),
    ("success", .boolean report.success),
    ("phase", .string report.phase),
    ("diagnostics", .array (report.diagnostics.map entryJson)),
    ("error_count", .integer report.errorCount),
    ("warning_count", .integer report.warningCount)]

def text (report : Report) : String := report.toJson.pretty

end Report

end Manifest
