import Manifest.Location
import Manifest.Value

/-!
# Structural errors

What can be wrong with a declaration or a scope on its own, before any resource type is asked.
-/

namespace Manifest

/-- Why a declaration or a scope was refused. -/
inductive StructureError where
  /-- A declaration names no type. -/
  | emptyResourceType (location : Location)
  /-- A declaration of a type has an empty name. -/
  | emptyName (resourceType : String) (location : Location)
  /-- The name attribute says something else than the declared name. -/
  | nameMismatch (name : String) (found : Value) (location : Location)
  /-- Something that is neither a declaration nor a scope was put into a scope. -/
  | foreignChild (kind : Value.Kind) (scope : Option String)
  deriving DecidableEq

namespace StructureError

def message : StructureError → String
  | .emptyResourceType _ => "declaration has an empty resource type"
  | .emptyName resourceType _ => "`" ++ resourceType ++ "` declaration has an empty identity name"
  | .nameMismatch name found _ =>
      "identity attribute " ++ found.display ++ " does not match name `" ++ name ++ "`"
  | .foreignChild kind _ => "scopes cannot hold children of kind `" ++ kind.name ++ "`"

end StructureError

end Manifest
