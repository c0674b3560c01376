import Manifest.Provider.Recording
import Manifest.Proofs.Agreement
import Manifest.Proofs.Provider.Laws

/-!
# Providers to which attributes are unordered

A provider may pay no heed to the order of attributes (`Provider.Unordered`). Its types build the
same from attributes that agree, and its instances are dictionaries: setting an attribute changes
nothing but the value of this attribute. An instance may have a core besides its attributes, and a
part of the world decides what types do. Resources in memory are of this kind, and so is the
provider that records the calls of such a one, if attributes that are set are left out of the
record.
-/

namespace Manifest

variable {σ ι κ ν τ : Type}

/-- What has come of building an instance, if no more is known of instances than a view tells. -/
def viewOutcome (view : ι → ν) :
    Except (ConstructionError ι) ι → Except (ConstructionError ν) ν
  | .ok handle => .ok (view handle)
  | .error error => .error ⟨error.message, error.remains.map view⟩

/-- If a view does not tell two outcomes from each other, both are successes or both failures. -/
theorem cases_of_viewOutcome_eq {view : ι → ν} {first second : Except (ConstructionError ι) ι}
    (same : viewOutcome view first = viewOutcome view second) :
    (∃ handle handle', first = .ok handle ∧ second = .ok handle' ∧ view handle = view handle') ∨
      ∃ message remains remains', first = .error ⟨message, remains⟩ ∧
        second = .error ⟨message, remains'⟩ ∧ remains.map view = remains'.map view := by
  rcases first with ⟨message, remains⟩ | handle <;>
    rcases second with ⟨message', remains'⟩ | handle'
  · simp only [viewOutcome, Except.error.injEq, ConstructionError.mk.injEq] at same
    rcases same with ⟨rfl, remaining⟩
    exact .inr ⟨message, remains, remains', rfl, rfl, remaining⟩
  · simp [viewOutcome] at same
  · simp [viewOutcome] at same
  · simp only [viewOutcome, Except.ok.injEq] at same
    exact .inl ⟨handle, handle', rfl, rfl, same⟩

namespace Provider

/-- All that there is to an instance: its core, and its attributes in no order. -/
def face (provider : Provider σ ι) (core : ι → κ) (handle : ι) : κ × (String → Option Value) :=
  (core handle, provider.operations.attribute? handle)

/-- A provider pays no heed to the order of attributes. What its types do is decided by a part of
the world and by attributes as a dictionary, and its instances are dictionaries with a core. -/
structure Unordered (provider : Provider σ ι) (core : ι → κ) (part : σ → τ) : Prop
    extends provider.KeepsAttributes where
  construct : ∀ {name : String} {resourceType : ResourceType σ ι},
    provider.lookup name = some resourceType → ∀ {left right : Attributes} {world world' : σ},
      left.agrees right = true → part world = part world' →
        viewOutcome (provider.face core) (resourceType.construct left world).1 =
            viewOutcome (provider.face core) (resourceType.construct right world').1 ∧
          part (resourceType.construct left world).2 = part (resourceType.construct right world').2
  retrieve : ∀ {name : String} {resourceType : ResourceType σ ι},
    provider.lookup name = some resourceType → ∀ {world world' : σ}, part world = part world' →
      ∀ key, (resourceType.retrieve key world).1.map (provider.face core) =
            (resourceType.retrieve key world').1.map (provider.face core) ∧
          part (resourceType.retrieve key world).2 = part (resourceType.retrieve key world').2
  setAttribute : ∀ handle key value world,
    core (provider.operations.setAttribute handle key value world).1 = core handle ∧
      part (provider.operations.setAttribute handle key value world).2 = part world
  setLocation : ∀ {handle handle' : ι} {world world' : σ},
    provider.face core handle = provider.face core handle' → part world = part world' →
      ∀ location,
        core (provider.operations.setLocation handle location world).1 =
            core (provider.operations.setLocation handle' location world').1 ∧
          part (provider.operations.setLocation handle location world).2 =
            part (provider.operations.setLocation handle' location world').2
  destroy : ∀ {handle handle' : ι} {world world' : σ},
    provider.face core handle = provider.face core handle' → part world = part world' →
      part (provider.operations.destroy handle world) =
        part (provider.operations.destroy handle' world')

theorem Unordered.face_setLocation {provider : Provider σ ι} {core : ι → κ} {part : σ → τ}
    (unordered : provider.Unordered core part) {handle handle' : ι} {world world' : σ}
    (same : provider.face core handle = provider.face core handle')
    (worlds : part world = part world') (location : Location) :
    provider.face core (provider.operations.setLocation handle location world).1 =
      provider.face core (provider.operations.setLocation handle' location world').1 := by
  have attributes := congrArg Prod.snd same
  apply Prod.ext
  · exact (unordered.setLocation same worlds location).1
  · funext key
    simp only [face, unordered.attribute?_setLocation]
    exact congrFun attributes key

end Provider

/-! ### Recorded calls -/

/-- What a call comes to if attributes have no order and no more is known of instances than a view
tells. Giving an instance an attribute does not count. -/
inductive Act (ν : Type) where
  | construct (resourceType : String) (attribute? : String → Option Value)
      (outcome : Except (ConstructionError ν) ν)
  | retrieve (resourceType : String) (name : String) (found : Option ν)
  | setLocation (handle : ν) (location : Location)
  | destroy (handle : ν)

def Call.act? (view : ι → ν) : Call ι → Option (Act ν)
  | .construct resourceType attributes outcome =>
      some (.construct resourceType attributes.get? (viewOutcome view outcome))
  | .retrieve resourceType name found => some (.retrieve resourceType name (found.map view))
  | .setAttribute _ _ _ => none
  | .setLocation handle location => some (.setLocation (view handle) location)
  | .destroy handle => some (.destroy (view handle))

theorem Provider.KeepsAttributes.recording {provider : Provider σ ι}
    (keeps : provider.KeepsAttributes) : provider.recording.KeepsAttributes where
  attribute?_construct := by
    intro name resourceType known attributes recorded handle constructed
    rcases Option.map_eq_some_iff.1 known with ⟨original, found, rfl⟩
    exact keeps.attribute?_construct found constructed
  attribute?_setAttribute handle key value recorded :=
    keeps.attribute?_setAttribute handle key value recorded.world
  attribute?_setLocation handle location recorded :=
    keeps.attribute?_setLocation handle location recorded.world

/-- A provider that records its calls pays no heed to the order of attributes if the original does
not. -/
theorem Provider.Unordered.recording {provider : Provider σ ι} {core : ι → κ} {part : σ → τ}
    (unordered : provider.Unordered core part) :
    provider.recording.Unordered core fun recorded =>
      (part recorded.world, recorded.calls.filterMap (Call.act? (provider.face core))) where
  toKeepsAttributes := unordered.toKeepsAttributes.recording
  construct := by
    intro name resourceType known left right recorded recorded' same worlds
    rcases Option.map_eq_some_iff.1 known with ⟨original, found, rfl⟩
    rcases Prod.ext_iff.1 worlds with ⟨worlds, calls⟩
    rcases unordered.construct found same worlds with ⟨outcomes, after⟩
    have attributes : left.get? = right.get? := funext (Dictionary.agrees_iff.1 same)
    refine ⟨outcomes, Prod.ext after ?_⟩
    simp only [ResourceType.recording, Recorded.step, List.filterMap_append, List.filterMap_cons,
      List.filterMap_nil, Call.act?, outcomes, attributes]
    exact congrArg (· ++ _) calls
  retrieve := by
    intro name resourceType known recorded recorded' worlds key
    rcases Option.map_eq_some_iff.1 known with ⟨original, found, rfl⟩
    rcases Prod.ext_iff.1 worlds with ⟨worlds, calls⟩
    rcases unordered.retrieve found worlds key with ⟨kept, after⟩
    refine ⟨kept, Prod.ext after ?_⟩
    simp only [ResourceType.recording, Recorded.step, List.filterMap_append, List.filterMap_cons,
      List.filterMap_nil, Call.act?, kept]
    exact congrArg (· ++ _) calls
  setAttribute handle key value recorded := by
    rcases unordered.setAttribute handle key value recorded.world with ⟨kept, after⟩
    refine ⟨kept, Prod.ext after ?_⟩
    simp [Provider.recording, InstanceOps.recording, Recorded.step, Call.act?]
  setLocation := by
    intro handle handle' recorded recorded' same worlds location
    rcases Prod.ext_iff.1 worlds with ⟨worlds, calls⟩
    rcases unordered.setLocation same worlds location with ⟨kept, after⟩
    have seen : provider.face core handle = provider.face core handle' := same
    refine ⟨kept, Prod.ext after ?_⟩
    simp only [Provider.recording, InstanceOps.recording, Recorded.step, List.filterMap_append,
      List.filterMap_cons, List.filterMap_nil, Call.act?, seen]
    exact congrArg (· ++ _) calls
  destroy := by
    intro handle handle' recorded recorded' same worlds
    rcases Prod.ext_iff.1 worlds with ⟨worlds, calls⟩
    have seen : provider.face core handle = provider.face core handle' := same
    refine Prod.ext (unordered.destroy seen worlds) ?_
    simp only [Provider.recording, InstanceOps.recording, Recorded.step, List.filterMap_append,
      List.filterMap_cons, List.filterMap_nil, Call.act?, seen]
    exact congrArg (· ++ _) calls

/-! ### Resources in memory -/

namespace Memory

/-- An instance in memory is its identity and its location, and a dictionary of attributes. -/
def core (handle : Instance) : Identity × Option Location :=
  (handle.identity, handle.location)

theorem World.store_add {world world' : World} (stores : world.store = world'.store)
    (identity : Identity) : (world.add identity).store = (world'.add identity).store := by
  by_cases present : identity ∈ world'.store
  · simp [World.add, stores, present]
  · simp [World.add, stores, present]

/-- A type in memory builds the same instance from attributes that agree, and registers it in the
same store. -/
theorem construct_of_agrees (specs : List Spec) (spec : Spec) {left right : Attributes}
    (same : left.agrees right = true) {world world' : World} (stores : world.store = world'.store) :
    viewOutcome ((provider specs).face core) (spec.construct left world).1 =
        viewOutcome ((provider specs).face core) (spec.construct right world').1 ∧
      (spec.construct left world).2.store = (spec.construct right world').2.store := by
  have attributes : left.get? = right.get? := funext (Dictionary.agrees_iff.1 same)
  have names : nameOf left = nameOf right := by simp only [nameOf, attributes]
  have causes : cause left = cause right := by simp only [cause, attributes]
  have failures : failure? left = failure? right := by simp only [failure?, attributes]
  have missing : (spec.required.find? fun key => !left.contains key) =
      spec.required.find? fun key => !right.contains key := by
    simp only [Dictionary.contains, attributes]
  have faces (identity : Identity) : (provider specs).face core ⟨identity, left, none⟩ =
      (provider specs).face core ⟨identity, right, none⟩ := Prod.ext rfl attributes
  have added (identity : Identity) (event event' : Event) :
      ((world.note event).add identity).store = ((world'.note event').add identity).store := by
    apply World.store_add
    exact stores
  simp only [Spec.construct, names, causes, failures, missing]
  split
  · exact ⟨rfl, stores⟩
  · split
    · exact ⟨congrArg Except.ok (faces _), added _ _ _⟩
    · exact ⟨rfl, stores⟩
    · exact ⟨by simp [viewOutcome, faces], stores⟩
    · exact ⟨rfl, added _ _ _⟩
    · exact ⟨by simp [viewOutcome, faces], added _ _ _⟩

theorem unordered (specs : List Spec) : (provider specs).Unordered core World.store where
  toKeepsAttributes := keepsAttributes specs
  construct := by
    intro name resourceType known left right world world' same stores
    rcases exists_spec_of_lookup known with ⟨spec, _, _, rfl⟩
    exact construct_of_agrees specs spec same stores
  retrieve := by
    intro name resourceType known world world' stores key
    rcases exists_spec_of_lookup known with ⟨spec, _, _, rfl⟩
    simp only [Spec.resourceType, Spec.retrieve, stores]
    split <;> simp [World.note, stores]
  setAttribute _ _ _ _ := ⟨rfl, rfl⟩
  setLocation same stores location := by
    have identities := congrArg (fun face => face.1.1) same
    exact ⟨Prod.ext identities rfl, stores⟩
  destroy same stores := by
    have identities := congrArg (fun face => face.1.1) same
    simp only [Provider.face, core] at identities
    simp [provider, TypeTable.provider, operations, World.note, World.remove, stores, identities]

end Memory

end Manifest
