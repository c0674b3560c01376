import Manifest.Provider.Basic

/-!
# Recording what a provider is asked

A recording provider does what another one does and keeps a list of the calls it gets, each with the
answer that was given. The list is a part of its world, so it also tells the order of calls to
different types and instances.
-/

namespace Manifest

/-- One call of a provider. -/
inductive Call (ι : Type) where
  /-- A type was asked to build an instance, and did or refused. -/
  | construct (resourceType : String) (attributes : Attributes)
      (outcome : Except (ConstructionError ι) ι)
  /-- A type was asked for an instance that it may have kept under a name. -/
  | retrieve (resourceType : String) (name : String) (found : Option ι)
  | setAttribute (handle : ι) (key : String) (value : Value)
  | setLocation (handle : ι) (location : Location)
  | destroy (handle : ι)

/-- A world and the calls that have led to it, oldest first. -/
structure Recorded (σ ι : Type) where
  world : σ
  calls : List (Call ι)

namespace Recorded

variable {σ ι : Type}

def step (recorded : Recorded σ ι) (call : Call ι) (world : σ) : Recorded σ ι :=
  ⟨world, recorded.calls ++ [call]⟩

end Recorded

variable {σ ι : Type}

/-- The type that does the same and records its calls, under the name by which it was looked up. -/
def ResourceType.recording (label : String) (resourceType : ResourceType σ ι) :
    ResourceType (Recorded σ ι) ι where
  name := resourceType.name
  construct attributes recorded :=
    let (outcome, world) := resourceType.construct attributes recorded.world
    (outcome, recorded.step (.construct label attributes outcome) world)
  retrieve name recorded :=
    let (found, world) := resourceType.retrieve name recorded.world
    (found, recorded.step (.retrieve label name found) world)

/-- The operations that do the same and record their calls. -/
def InstanceOps.recording (operations : InstanceOps σ ι) : InstanceOps (Recorded σ ι) ι where
  attribute? := operations.attribute?
  setAttribute handle key value recorded :=
    let (changed, world) := operations.setAttribute handle key value recorded.world
    (changed, recorded.step (.setAttribute handle key value) world)
  setLocation handle location recorded :=
    let (changed, world) := operations.setLocation handle location recorded.world
    (changed, recorded.step (.setLocation handle location) world)
  destroy handle recorded :=
    recorded.step (.destroy handle) (operations.destroy handle recorded.world)

/-- The provider that does the same and records its calls. -/
def Provider.recording (provider : Provider σ ι) : Provider (Recorded σ ι) ι where
  lookup name := (provider.lookup name).map (ResourceType.recording name)
  operations := provider.operations.recording

end Manifest
