import Manifest.Provider.Memory

/-!
# Laws of providers

Lowering asks nothing of a provider. What can be said of the trees it builds depends on three laws
that a provider may follow: whether an instance can be built is decided by the attributes alone
(`Provider.Steady`), instances are dictionaries of the attributes they were given
(`Provider.KeepsAttributes`), and an instance knows the location it was last moved to
(`Provider.KeepsLocation`). Resources in memory follow all three.
-/

namespace Manifest

variable {σ ι : Type}

/-- How building an instance was refused, if it was: the message, and whether something remains. -/
def refusal? : Except (ConstructionError ι) ι → Option (String × Bool)
  | .ok _ => none
  | .error error => some (error.message, error.remains.isSome)

namespace Provider

/-- Whether and how building an instance is refused does not depend on the world. -/
structure Steady (provider : Provider σ ι) : Prop where
  refusal?_construct : ∀ {name : String} {resourceType : ResourceType σ ι},
    provider.lookup name = some resourceType → ∀ attributes first second,
      refusal? (resourceType.construct attributes first).1 =
        refusal? (resourceType.construct attributes second).1

/-- Instances are dictionaries, which start with the attributes they are built from. -/
structure KeepsAttributes (provider : Provider σ ι) : Prop where
  attribute?_construct : ∀ {name : String} {resourceType : ResourceType σ ι},
    provider.lookup name = some resourceType → ∀ {attributes world handle},
      (resourceType.construct attributes world).1 = .ok handle → ∀ key,
        provider.operations.attribute? handle key = attributes.get? key
  attribute?_setAttribute : ∀ handle key value world other,
    provider.operations.attribute?
        (provider.operations.setAttribute handle key value world).1 other =
      if key = other then some value else provider.operations.attribute? handle other
  attribute?_setLocation : ∀ handle location world key,
    provider.operations.attribute? (provider.operations.setLocation handle location world).1 key =
      provider.operations.attribute? handle key

/-- Instances know the location they were last moved to. -/
structure KeepsLocation (provider : Provider σ ι) (location? : ι → Option Location) : Prop where
  location?_setLocation : ∀ handle location world,
    location? (provider.operations.setLocation handle location world).1 = some location
  location?_setAttribute : ∀ handle key value world,
    location? (provider.operations.setAttribute handle key value world).1 = location? handle

end Provider

namespace TypeTable

/-- A table knows no type but those that were registered, each under its own name. -/
theorem mem_of_lookup_ofList {types : List (ResourceType σ ι)} {name : String}
    {resourceType : ResourceType σ ι} (known : (ofList types).lookup name = some resourceType) :
    resourceType ∈ types ∧ resourceType.name = name := by
  rw [lookup_ofList, ResourceType.lastNamed?, List.findRev?_eq_find?_reverse] at known
  have member := List.mem_of_find?_eq_some known
  exact ⟨List.mem_reverse.1 member, by simpa using List.find?_some known⟩

end TypeTable

namespace Memory

/-- A type that the provider in memory knows under a name is one that was described so. -/
theorem exists_spec_of_lookup {specs : List Spec} {name : String}
    {resourceType : ResourceType World Instance}
    (known : (provider specs).lookup name = some resourceType) :
    ∃ spec ∈ specs, spec.name = name ∧ resourceType = spec.resourceType := by
  rcases TypeTable.mem_of_lookup_ofList known with ⟨member, named⟩
  rcases List.mem_map.1 member with ⟨spec, present, rfl⟩
  exact ⟨spec, present, named, rfl⟩

/-- A type in memory looks at the attributes only. -/
theorem steady (specs : List Spec) : (provider specs).Steady where
  refusal?_construct known attributes first second := by
    rcases exists_spec_of_lookup known with ⟨spec, _, _, rfl⟩
    simp only [Spec.resourceType, Spec.construct]
    split
    · rfl
    · split <;> rfl

theorem attributes_of_construct {spec : Spec} {attributes : Attributes} {world : World}
    {handle : Instance} (constructed : (spec.construct attributes world).1 = .ok handle) :
    handle.attributes = attributes := by
  simp only [Spec.construct] at constructed
  split at constructed
  · contradiction
  · split at constructed
    · rw [Except.ok.injEq] at constructed
      rw [← constructed]
    all_goals contradiction

theorem keepsAttributes (specs : List Spec) : (provider specs).KeepsAttributes where
  attribute?_construct := by
    intro name resourceType known attributes world handle constructed key
    rcases exists_spec_of_lookup known with ⟨spec, _, _, rfl⟩
    rw [← attributes_of_construct constructed]
    rfl
  attribute?_setAttribute handle key value world other :=
    Dictionary.get?_insert handle.attributes key other value
  attribute?_setLocation _ _ _ _ := rfl

theorem keepsLocation (specs : List Spec) :
    (provider specs).KeepsLocation fun handle => handle.location where
  location?_setLocation _ _ _ := rfl
  location?_setAttribute _ _ _ _ := rfl

end Memory

end Manifest
