import Manifest.Interchange.Write

/-!
# Diagnostics

A diagnostic is what a user is told about a problem: how serious it is, what it is, where, and what
may help. It is built up step by step, and it never holds a location that says nothing.
-/

namespace Manifest

/-- How serious a problem is. -/
inductive Severity where
  | error
  | warning
  | note
  deriving DecidableEq, Repr

def Severity.name : Severity → String
  | .error => "error"
  | .warning => "warning"
  | .note => "note"

/-- What a user is told about a problem. -/
structure Diagnostic where
  severity : Severity
  code : Option String
  message : String
  location : Option Location
  notes : List String
  help : Option String
  deriving DecidableEq

namespace Diagnostic

def new (severity : Severity) (message : String) : Diagnostic :=
  ⟨severity, none, message, none, [], none⟩

def error (message : String) : Diagnostic := new .error message

def warning (message : String) : Diagnostic := new .warning message

def withCode (diagnostic : Diagnostic) (code : String) : Diagnostic :=
  { diagnostic with code := some code }

/-- Sets the location, unless it says nothing. -/
def atLocation (diagnostic : Diagnostic) (location : Location) : Diagnostic :=
  if location.isUnknown then diagnostic else { diagnostic with location := some location }

def withNote (diagnostic : Diagnostic) (note : String) : Diagnostic :=
  { diagnostic with notes := diagnostic.notes ++ [note] }

def withHelp (diagnostic : Diagnostic) (help : String) : Diagnostic :=
  { diagnostic with help := some help }

def isError (diagnostic : Diagnostic) : Bool :=
  diagnostic.severity == .error

/-- All members of a diagnostic, null where there is nothing. -/
def toJson (diagnostic : Diagnostic) : Json :=
  .object [
    ("severity", .string diagnostic.severity.name),
    ("code", .ofOption .string diagnostic.code),
    ("message", .string diagnostic.message),
    ("location", .ofOption Location.toJson diagnostic.location),
    ("notes", .array (diagnostic.notes.map .string)),
    ("help", .ofOption .string diagnostic.help)]

end Diagnostic

end Manifest
