/-!
# Codes of diagnostics

Each kind of problem has a code, a short title and a category.
-/

namespace Manifest

/-- What a problem has to do with. -/
inductive Category where
  | structural
  | resolution
  | construction
  | reference
  deriving DecidableEq, Repr

def Category.name : Category → String
  | .structural => "Structure"
  | .resolution => "Resolution"
  | .construction => "Construction"
  | .reference => "Reference"

/-- What is known about a code. -/
structure CodeInfo where
  code : String
  title : String
  category : Category
  deriving DecidableEq, Repr

namespace CodeInfo

def all : List CodeInfo := [
  ⟨"S0001", "empty resource type", .structural⟩,
  ⟨"S0002", "empty identity name", .structural⟩,
  ⟨"S0003", "invalid scope child", .structural⟩,
  ⟨"S0004", "identity attribute does not match name", .structural⟩,
  ⟨"S0100", "unknown resource type", .resolution⟩,
  ⟨"S0101", "scope without a name", .resolution⟩,
  ⟨"S0102", "resource construction failed", .construction⟩,
  ⟨"S0200", "reference to undeclared resource", .reference⟩]

/-- What is known about a code, if it is one of those above. -/
def find? (code : String) : Option CodeInfo :=
  all.find? fun info => info.code == code

end CodeInfo

end Manifest
