import Manifest.Proofs.Lowering.Attributes

/-!
# What types in memory register

The store of the types in memory holds the identities of the instances that were built and not
destroyed. A construction that succeeds registers the identity of its declaration; one that fails
leaves it unregistered once it is cleaned up after, whether or not it was registered before
(`mem_store_recordFailure`). No other identity is touched.
-/

namespace Manifest

namespace Memory

theorem World.mem_add {world : World} {identity other : Identity} :
    other ∈ (world.add identity).store ↔ other = identity ∨ other ∈ world.store := by
  unfold World.add
  split
  · next present =>
      constructor
      · exact .inr
      · rintro (rfl | before)
        · exact present
        · exact before
  · simp [or_comm]

theorem World.mem_remove {world : World} {identity other : Identity} :
    other ∈ (world.remove identity).store ↔ other ≠ identity ∧ other ∈ world.store := by
  simp [World.remove, and_comm]

theorem nameOf_attributes (declaration : Declaration) :
    nameOf declaration.attributes = declaration.name := by
  have named := declaration.attribute?_nameKey
  rw [Declaration.attribute?] at named
  rw [nameOf, named]

/-- The identity under which an instance of a declaration is registered is its own. -/
theorem identity_of_spec {spec : Spec} {declaration : Declaration}
    (named : spec.name = declaration.resourceType) :
    (⟨spec.name, nameOf declaration.attributes⟩ : Identity) = declaration.identity := by
  rw [nameOf_attributes, named]
  rfl

/-- Building an instance registers it. -/
theorem mem_store_of_constructed {spec : Spec} {attributes : Attributes} {before world : World}
    {handle : Instance} (constructed : spec.construct attributes before = (.ok handle, world))
    (identity : Identity) :
    identity ∈ world.store ↔
      identity = ⟨spec.name, nameOf attributes⟩ ∨ identity ∈ before.store := by
  simp only [Spec.construct] at constructed
  split at constructed
  · simp at constructed
  · split at constructed <;> simp only [Prod.mk.injEq, reduceCtorEq, false_and] at constructed
    rw [← constructed.2, World.mem_add]
    rfl

/-- Failing to build an instance may register it, and leaves all else as it is. -/
theorem mem_store_of_refused {spec : Spec} {attributes : Attributes} {before world : World}
    {error : ConstructionError Instance}
    (refused : spec.construct attributes before = (.error error, world)) {identity : Identity}
    (other : identity ≠ ⟨spec.name, nameOf attributes⟩) :
    identity ∈ world.store ↔ identity ∈ before.store := by
  simp only [Spec.construct] at refused
  split at refused
  · rw [Prod.mk.injEq] at refused
    rw [← refused.2]
    rfl
  · split at refused <;> simp only [Prod.mk.injEq, reduceCtorEq, false_and] at refused <;>
      rw [← refused.2] <;> simp [World.mem_add, World.note, other]

/-- What is handed back by a failure has the identity that was asked for. -/
theorem identity_of_remains {spec : Spec} {attributes : Attributes} {before world : World}
    {error : ConstructionError Instance} {handle : Instance}
    (refused : spec.construct attributes before = (.error error, world))
    (remains : error.remains = some handle) :
    handle.identity = ⟨spec.name, nameOf attributes⟩ := by
  simp only [Spec.construct] at refused
  split at refused
  · simp only [Prod.mk.injEq, Except.error.injEq] at refused
    rw [← refused.1] at remains
    contradiction
  · split at refused <;>
      simp only [Prod.mk.injEq, Except.error.injEq, reduceCtorEq, false_and] at refused <;>
      rw [← refused.1] at remains <;> simp only [Option.some.injEq, reduceCtorEq] at remains <;>
      rw [← remains]

theorem mem_store_destroy (handle : Instance) (world : World) (identity : Identity) :
    identity ∈ (operations.destroy handle world).store ↔
      identity ≠ handle.identity ∧ identity ∈ world.store :=
  World.mem_remove

/-- Cleaning up after an identity takes it, and it alone, out of the store. -/
theorem mem_store_cleanUp (specs : List Spec) {spec : Spec} (keeps : spec.keepsStore = true)
    {own : Identity} (named : spec.name = own.resourceType) {remains : Option Instance}
    (same : ∀ handle, remains = some handle → handle.identity = own) (session : Session World)
    (identity : Identity) :
    identity ∈ (cleanUp (provider specs) spec.resourceType own remains session).2.world.store ↔
      identity ≠ own ∧ identity ∈ session.world.store := by
  cases remains with
  | some handle =>
      rcases same handle rfl with rfl
      exact mem_store_destroy handle session.world identity
  | none =>
      have whole : (⟨spec.name, own.name⟩ : Identity) = own := by rw [named]
      by_cases present : own ∈ session.world.store
      · have found : spec.retrieve own.name session.world =
            (some ⟨own, Dictionary.empty, none⟩, session.world.note (.retrieve own)) := by
          simp only [Spec.retrieve, keeps, if_true, whole, present]
        simp only [cleanUp, Spec.resourceType, found]
        exact mem_store_destroy ⟨own, Dictionary.empty, none⟩ _ identity
      · have missing : spec.retrieve own.name session.world =
            (none, session.world.note (.retrieve own)) := by
          simp only [Spec.retrieve, keeps, if_true, whole, present, if_false]
        -- nothing is destroyed, and there is nothing to take out
        simp only [cleanUp, Spec.resourceType, missing]
        constructor
        · intro kept
          exact ⟨fun equal => present (equal ▸ kept), kept⟩
        · exact And.right

/-- After a failed construction, the identity of the declaration is not registered, and all others
are registered as before. -/
theorem mem_store_recordFailure (specs : List Spec) (options : Options) {spec : Spec}
    (keeps : spec.keepsStore = true) {declaration : Declaration}
    (named : spec.name = declaration.resourceType) {error : ConstructionError Instance}
    {session : Session World} {world : World}
    (refused : spec.construct declaration.attributes session.world = (.error error, world))
    (identity : Identity) :
    identity ∈ (recordFailure (provider specs) options spec.resourceType declaration error
        (session.inWorld world)).2.world.store ↔
      identity ≠ declaration.identity ∧ identity ∈ session.world.store := by
  have same : ∀ handle, error.remains = some handle →
      handle.identity = declaration.identity := by
    intro handle remains
    rw [identity_of_remains refused remains, identity_of_spec named]
  have untouched (other : identity ≠ declaration.identity) :
      identity ∈ world.store ↔ identity ∈ session.world.store := by
    rw [← identity_of_spec named] at other
    exact mem_store_of_refused refused other
  have cleaned := fun dumped => mem_store_cleanUp specs keeps named same dumped identity
  rw [← and_congr_right untouched]
  simp only [recordFailure]
  split <;> exact cleaned _

end Memory

end Manifest
