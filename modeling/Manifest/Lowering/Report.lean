import Manifest.Lowering.Options
import Manifest.Declaration

/-!
# What lowering reports

A fatal error ends the lowering of a whole tree. A failure costs one declaration its resource; it is
kept, together with what was done to clean up after it. An event is a line of the log.
-/

namespace Manifest

/-- Why a tree cannot be lowered. -/
inductive LoweringError where
  /-- The type of a declaration is not known. -/
  | unknownType (identity : Identity) (location : Location)
  /-- A scope has no name. -/
  | missingScopeName (scopeType : Option String) (location : Location)
  deriving DecidableEq

namespace LoweringError

/-- Where the offending declaration or scope was written. -/
def location : LoweringError → Location
  | .unknownType _ location => location
  | .missingScopeName _ location => location

def message : LoweringError → String
  | .unknownType identity _ =>
      "could not find resource type `" ++ identity.resourceType ++ "` (declared by "
        ++ identity.display ++ ")"
  | .missingScopeName (some scopeType) _ => "`" ++ scopeType ++ "` scope must have a name"
  | .missingScopeName none _ => "scope must have a name"

end LoweringError

/-- What was done to clean up after a failed construction. -/
inductive Cleanup where
  /-- The partly built instance was destroyed. -/
  | destroyedPartial
  /-- An instance that the type had kept under the same name was destroyed. -/
  | destroyedRetrieved
  | nothing
  deriving DecidableEq, Repr

/-- A declaration that has become no resource. -/
structure Failure where
  identity : Identity
  location : Location
  cause : String
  cleanup : Cleanup
  /-- The written form of the declaration, if dumps are asked for. -/
  dump : Option String
  deriving DecidableEq

/-- A line of the log. -/
inductive LogEvent where
  | scopeWithoutType (scope : String)
  | scopeWithoutDefaults (scope : String)
  | definingDefault (scope : String) (key : String)
  | mergingAttribute (resource : Identity) (key : String)
  | failedDeclaration (resource : Identity) (dump : String)
  | destroyingPartial (resource : Identity)
  | destroyingRetrieved (resource : Identity)
  | couldNotCreate (resource : Identity) (location : Location) (cause : String)
  deriving DecidableEq

/-- How serious a line of the log is. -/
inductive Level where
  | debug
  | error
  deriving DecidableEq, Repr

def Level.name : Level → String
  | .debug => "DEBUG"
  | .error => "ERROR"

namespace LogEvent

def level : LogEvent → Level
  | .scopeWithoutType _ => .debug
  | .scopeWithoutDefaults _ => .debug
  | .definingDefault _ _ => .debug
  | .mergingAttribute _ _ => .debug
  | .failedDeclaration _ _ => .error
  | .destroyingPartial _ => .error
  | .destroyingRetrieved _ => .error
  | .couldNotCreate _ _ _ => .error

def message : LogEvent → String
  | .scopeWithoutType _ => "scope has no type"
  | .scopeWithoutDefaults _ => "scope has no default attributes"
  | .definingDefault _ _ => "defining scope default"
  | .mergingAttribute _ _ => "merging attribute"
  | .failedDeclaration _ _ => "failed declaration"
  | .destroyingPartial _ => "destroying partially built resource"
  | .destroyingRetrieved _ => "destroying retrieved resource"
  | .couldNotCreate _ _ _ => "could not create resource"

def fields : LogEvent → List (String × String)
  | .scopeWithoutType scope => [("scope", scope)]
  | .scopeWithoutDefaults scope => [("scope", scope)]
  | .definingDefault scope key => [("scope", scope), ("attribute", key)]
  | .mergingAttribute resource key => [("resource", resource.display), ("attribute", key)]
  | .failedDeclaration resource dump => [("resource", resource.display), ("declaration", dump)]
  | .destroyingPartial resource => [("resource", resource.display)]
  | .destroyingRetrieved resource => [("resource", resource.display)]
  | .couldNotCreate resource location cause =>
      [("resource", resource.display), ("location", location.display), ("cause", cause)]

end LogEvent

end Manifest
