import Manifest.DeclarationLog
import Manifest.Diagnostic.Basic
import Manifest.Lowering.Lowered

/-!
# Explaining problems

Every error, failure and dangling reference has a diagnostic that explains it.
-/

namespace Manifest

/-- What is told about a declaration or a scope that was refused. -/
def StructureError.diagnostic (fault : StructureError) : Diagnostic :=
  let told := Diagnostic.error fault.message
  match fault with
  | .emptyResourceType location => (told.withCode "S0001").atLocation location
  | .emptyName _ location =>
      ((told.withCode "S0002").atLocation location).withHelp "every resource needs a non-empty name"
  | .nameMismatch _ _ location =>
      ((told.withCode "S0004").atLocation location).withHelp
        "drop the `name` attribute or make it equal to the declared name"
  | .foreignChild _ scope =>
      let helped :=
        (told.withCode "S0003").withHelp "scopes hold only resource declarations and nested scopes"
      match scope with
      | some name => helped.withNote ("while adding to scope `" ++ name ++ "`")
      | none => helped

def LoweringError.diagnostic (fault : LoweringError) : Diagnostic :=
  let told := Diagnostic.error fault.message
  match fault with
  | .unknownType identity location =>
      ((told.withCode "S0100").atLocation location).withHelp
        ("check the spelling of `" ++ identity.resourceType
          ++ "` or load the module that defines it")
  | .missingScopeName _ location => (told.withCode "S0101").atLocation location

/-- What is told about a declaration that has become no resource. -/
def Failure.diagnostic (failure : Failure) : Diagnostic :=
  let told := Diagnostic.error
    ("could not create " ++ failure.identity.display ++ ": " ++ failure.cause)
  let located := (told.withCode "S0102").atLocation failure.location
  let cleaned :=
    match failure.cleanup with
    | .destroyedPartial => located.withNote "the partially built resource was destroyed"
    | .destroyedRetrieved =>
        located.withNote ("the existing " ++ failure.identity.display ++ " was destroyed")
    | .nothing => located
  match failure.dump with
  | some dump => cleaned.withNote ("declaration: " ++ dump)
  | none => cleaned

def DanglingReference.diagnostic (reference : DanglingReference) : Diagnostic :=
  let told := Diagnostic.warning
    (reference.source.display ++ " refers to " ++ reference.target.display ++ " in `"
      ++ reference.key ++ "`, which is never declared")
  (told.withCode "S0200").atLocation reference.location

/-- One error for each declaration that is missing from a realized tree. -/
def Lowered.diagnostics {ι : Type} (lowered : Lowered ι) : List Diagnostic :=
  lowered.failures.map Failure.diagnostic

end Manifest
