import Manifest.Lowering.Contents
import Manifest.Provider.Basic
import Manifest.Scope

/-!
# Resolving declarations and scopes

A scope is lowered depth first and in order. A declaration whose identity has already become a
resource of the same scope is merged into that resource; any other one is built. One that cannot be
built is cleaned up after, recorded and left out.
-/

namespace Manifest

/-- What has become of one declaration. -/
inductive Resolution (ι : Type) where
  | realized (resource : RealizedResource ι)
  | failed (failure : Failure)

section

variable {σ ι : Type} (provider : Provider σ ι) (options : Options)

/-- Cleans up after a failed construction: the partly built instance is destroyed, or else the one
that the type has kept under the name. -/
def cleanUp (resourceType : ResourceType σ ι) (identity : Identity) (remains : Option ι)
    (session : Session σ) : Cleanup × Session σ :=
  match remains with
  | some handle =>
      (.destroyedPartial, (session.note (.destroyingPartial identity)).inWorld
        (provider.operations.destroy handle session.world))
  | none =>
      match resourceType.retrieve identity.name session.world with
      | (some handle, world) =>
          (.destroyedRetrieved, (session.note (.destroyingRetrieved identity)).inWorld
            (provider.operations.destroy handle world))
      | (none, world) => (.nothing, session.inWorld world)

/-- Logs, cleans up after and keeps the failure of a declaration, in this order. -/
def recordFailure (resourceType : ResourceType σ ι) (declaration : Declaration)
    (error : ConstructionError ι) (session : Session σ) : Failure × Session σ :=
  let identity := declaration.identity
  let dump := if options.debug then some declaration.display else none
  let dumped :=
    match dump with
    | some text => session.note (.failedDeclaration identity text)
    | none => session
  let (cleanup, cleaned) := cleanUp provider resourceType identity error.remains dumped
  let failure : Failure := ⟨identity, declaration.location, error.message, cleanup, dump⟩
  (failure,
    (cleaned.note (.couldNotCreate identity declaration.location error.message)).addFailure failure)

/-- Lowers a declaration on its own. -/
def resolveDeclaration (declaration : Declaration) (session : Session σ) :
    Outcome σ (Resolution ι) :=
  match provider.lookup declaration.resourceType with
  | none => (.error (.unknownType declaration.identity declaration.location), session)
  | some resourceType =>
      match resourceType.construct declaration.attributes session.world with
      | (.ok handle, world) =>
          let (located, after) := provider.operations.setLocation handle declaration.location world
          (.ok (.realized ⟨declaration.identity, declaration.location, none, located⟩),
            session.inWorld after)
      | (.error error, world) =>
          let (failure, after) :=
            recordFailure provider options resourceType declaration error (session.inWorld world)
          (.ok (.failed failure), after)

/-- Gives an instance the attributes of a later declaration but for the name, and logs each. -/
def mergeAttributes (identity : Identity) :
    List (String × Value) → ι → Session σ → ι × Session σ
  | [], handle, session => (handle, session)
  | (key, value) :: rest, handle, session =>
      if key = Attributes.nameKey then mergeAttributes identity rest handle session
      else
        let (changed, world) := provider.operations.setAttribute handle key value session.world
        mergeAttributes identity rest changed
          ((session.note (.mergingAttribute identity key)).inWorld world)

/-- Merges a declaration into the resource that stands for it already. -/
def mergeInto (scope : String) (existing : RealizedResource ι) (declaration : Declaration)
    (session : Session σ) : RealizedResource ι × Session σ :=
  let (handle, after) :=
    mergeAttributes provider existing.identity declaration.attributes.entries existing.handle
      session
  ({ existing with parent := some scope, handle }, after)

/-- Lowers a declaration of a scope into the contents of its container. -/
def placeDeclaration (scope : String) (declaration : Declaration) (contents : Contents ι)
    (session : Session σ) : Outcome σ (Contents ι) :=
  match contents.positions.get? declaration.identity with
  | some position =>
      match contents.children[position]? with
      | some (.resource existing) =>
          let (merged, after) := mergeInto provider scope existing declaration session
          (.ok (contents.replace position merged), after)
      | _ => (.ok contents, session)
  | none =>
      (resolveDeclaration provider options declaration session).andThen fun resolution after =>
        match resolution with
        | .realized resource =>
            (.ok (contents.addResource { resource with parent := some scope }), after)
        | .failed _ => (.ok contents, after)

mutual

/-- Lowers a scope and everything under it. Its name is asked for before anything else happens. -/
def resolveScope : Scope → Session σ → Outcome σ (Realized ι)
  | ⟨none, scopeType, location, _, _⟩, session =>
      (.error (.missingScopeName scopeType location), session)
  | ⟨some name, scopeType, location, defaults, children⟩, session =>
      let (attributes, opened) := openContainer name scopeType defaults session
      (resolveChildren name children .empty opened).andThen fun contents after =>
        (.ok ⟨name, scopeType, location, attributes, contents.children⟩, after)

/-- Lowers the children of a scope one after the other into the contents of its container. -/
def resolveChildren (scope : String) :
    List Child → Contents ι → Session σ → Outcome σ (Contents ι)
  | [], contents, session => (.ok contents, session)
  | .scope nested :: rest, contents, session =>
      (resolveScope nested session).andThen fun container after =>
        resolveChildren scope rest (contents.addContainer container) after
  | .declaration declaration :: rest, contents, session =>
      (placeDeclaration provider options scope declaration contents session).andThen
        fun next after => resolveChildren scope rest next after

end

end

end Manifest
