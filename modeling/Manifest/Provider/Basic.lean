import Manifest.Attributes
import Manifest.Location

/-!
# Providers of resources

What a resource is and how one is built is not decided here. A provider knows resource types by
their names; a type builds instances from attributes. Everything a provider does may depend on its
world and change it: `σ` is the type of worlds and `ι` the type of instances.
-/

namespace Manifest

/-- Why an instance could not be built, and the partly built instance if there is one. -/
structure ConstructionError (ι : Type) where
  message : String
  remains : Option ι

/-- One kind of resources. -/
structure ResourceType (σ ι : Type) where
  name : String
  /-- Builds an instance from all attributes, the name included. -/
  construct : Attributes → σ → Except (ConstructionError ι) ι × σ
  /-- Looks for an instance that the type itself has kept under a name. -/
  retrieve : String → σ → Option ι × σ

/-- What can be done with an instance. -/
structure InstanceOps (σ ι : Type) where
  attribute? : ι → String → Option Value
  setAttribute : ι → String → Value → σ → ι × σ
  setLocation : ι → Location → σ → ι × σ
  /-- Undoes whatever building the instance has left in the world. -/
  destroy : ι → σ → σ

/-- Resource types by name, and what can be done with their instances. -/
structure Provider (σ ι : Type) where
  lookup : String → Option (ResourceType σ ι)
  operations : InstanceOps σ ι

end Manifest
