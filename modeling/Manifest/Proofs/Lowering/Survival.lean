import Manifest.Proofs.Lowering.Realization
import Manifest.Proofs.Provider.Store

/-!
# Resources that survive a run

Types in memory register what they build under its identity, and a failed declaration is cleaned
up after by its identity too. An identity is therefore registered after a run if the last
construction that was attempted of it succeeded, in whatever scope (`Filling.mem_store_iff`): a
failure takes away what an outer, an inner or a sibling scope has built before under the same
identity, although the resource stays in the tree.

Nothing else is left over: what a construction has registered before it failed is taken out again,
so that whatever is registered in the end is a resource of the tree
(`exists_resource_of_mem_store`).
-/

namespace Manifest

open Memory (World Instance Spec)

variable {σ ι : Type} {specs : List Spec} {options : Options}

/-- Whether the last construction that was attempted of an identity succeeded, if there was one. -/
def lastAttempt? (identity : Identity) (attempts : List (Identity × Bool)) : Option Bool :=
  attempts.reverse.findSome? fun attempt =>
    if attempt.1 = identity then some attempt.2 else none

theorem lastAttempt?_append (identity : Identity) (first second : List (Identity × Bool)) :
    lastAttempt? identity (first ++ second) =
      (lastAttempt? identity second).or (lastAttempt? identity first) := by
  simp only [lastAttempt?, List.reverse_append, List.findSome?_append]

/-- Whether an identity is registered after some attempts: the last one of it succeeded, or there
was none and it was registered before. -/
def Registered (identity : Identity) (attempts : List (Identity × Bool)) (before : Prop) : Prop :=
  lastAttempt? identity attempts = some true ∨ (lastAttempt? identity attempts = none ∧ before)

theorem registered_append (identity : Identity) (first second : List (Identity × Bool))
    (before : Prop) :
    Registered identity (first ++ second) before ↔
      Registered identity second (Registered identity first before) := by
  simp only [Registered, lastAttempt?_append]
  cases lastAttempt? identity second <;> simp

theorem registered_singleton (identity : Identity) (attempt : Identity × Bool) (before : Prop) :
    Registered identity [attempt] before ↔
      if identity = attempt.1 then attempt.2 = true else before := by
  by_cases same : identity = attempt.1
  · simp [Registered, lastAttempt?, same]
  · simp [Registered, lastAttempt?, same, Ne.symm same]

/-- Merging notes what it does, and registers nothing. -/
theorem mergeAttributes_store (identity : Identity) (entries : List (String × Value))
    (handle : Instance) (session : Session World) :
    (mergeAttributes (Memory.provider specs) identity entries handle session).2.world.store =
      session.world.store := by
  induction entries generalizing handle session with
  | nil => rfl
  | cons entry rest ih =>
      rcases entry with ⟨key, value⟩
      simp only [mergeAttributes]
      split
      · exact ih handle session
      · exact ih _ _

/-- What lowering one declaration does to the store is decided by what was attempted. -/
theorem Placement.mem_store_iff (keeps : ∀ spec ∈ specs, spec.keepsStore = true)
    {scope : String} {declaration : Declaration} {fate : Fate} {contents next : Contents Instance}
    {session after : Session World}
    (placement : Placement (Memory.provider specs) options scope declaration contents session fate
      next after) (identity : Identity) :
    identity ∈ after.world.store ↔
      Registered identity (History.entry declaration fate .nil).attempts
        (identity ∈ session.world.store) := by
  cases placement with
  | @built _ handle located world after _ known constructed moved =>
      rcases Memory.exists_spec_of_lookup known with ⟨spec, _, named, rfl⟩
      have stored : ((Memory.provider specs).operations.setLocation handle declaration.location
          world).2.store = world.store := rfl
      rw [moved] at stored
      have registered := Memory.mem_store_of_constructed constructed identity
      rw [Memory.identity_of_spec named, ← stored] at registered
      refine registered.trans ?_
      rw [History.attempts, History.attempts, registered_singleton]
      split <;> simp [*]
  | failed _ known refused =>
      rcases Memory.exists_spec_of_lookup known with ⟨spec, present, named, rfl⟩
      rw [Memory.mem_store_recordFailure specs options (keeps spec present) named refused identity,
        History.attempts, History.attempts, registered_singleton]
      split <;> simp [*]
  | @merged _ existing kept there =>
      rw [mergeInto, mergeAttributes_store]
      simp [History.attempts, Registered, lastAttempt?]

/-- After a run, an identity is registered if the last construction that was attempted of it
succeeded, or if there was none and it was registered before. -/
theorem Filling.mem_store_iff (keeps : ∀ spec ∈ specs, spec.keepsStore = true)
    {scope : String} {history : History} {contents final : Contents Instance}
    {session last : Session World}
    (filling : Filling (Memory.provider specs) options scope history contents session final last)
    (identity : Identity) :
    identity ∈ last.world.store ↔
      Registered identity history.attempts (identity ∈ session.world.store) := by
  induction filling with
  | nil => simp [History.attempts, Registered, lastAttempt?]
  | @entry _ declaration fate rest _ _ _ _ _ _ placement tail ih =>
      have split : (History.entry declaration fate rest).attempts =
          (History.entry declaration fate .nil).attempts ++ rest.attempts := by
        cases fate <;> rfl
      rw [ih, placement.mem_store_iff keeps identity, split, registered_append]
  | nested within tail ihWithin ihTail =>
      rw [ihTail, ihWithin, openContainer_snd, History.attempts, registered_append]

/-- The resources of a tree are the constructions that succeeded, in order. -/
theorem Realizes.map_identity_resourcesIn {fits : Declaration → List Declaration → ι → Prop}
    {scope : String} {history : History} {children : List (RealizedChild ι)}
    (realizes : Realizes fits scope history children) :
    (Realized.resourcesIn children).map RealizedResource.identity =
      (history.attempts.filter Prod.snd).map Prod.fst := by
  induction realizes with
  | nil => rfl
  | built once fit tail ih => simp [Realized.resourcesIn, History.attempts, ih]
  | @skipped _ _ fate _ _ unbuilt tail ih =>
      cases fate with
      | built => contradiction
      | failed => simpa [History.attempts] using ih
      | merged => exact ih
  | nested within tail ihWithin ihTail =>
      simp [Realized.resourcesIn, Realized.resources, History.attempts, ihWithin, ihTail]

section

variable {provider : Provider σ ι} {scope : Scope} {world : σ} {lowered : Lowered ι}
  {session : Session σ}

theorem map_identity_resources_of_lower
    (run : lower provider options scope world = (.ok lowered, session)) :
    lowered.root.resources.map RealizedResource.identity =
      ((scope.history provider options world).attempts.filter Prod.snd).map Prod.fst := by
  rcases filling_of_lower run with ⟨_, name, contents, last, _, filling, rfl, _⟩
  have realizes := filling.realizes provider.maintains_true Contents.indexed_empty .nil
  exact realizes.map_identity_resourcesIn

theorem exists_resource_iff_of_lower
    (run : lower provider options scope world = (.ok lowered, session)) (identity : Identity) :
    (∃ resource ∈ lowered.root.resources, resource.identity = identity) ↔
      (identity, true) ∈ (scope.history provider options world).attempts := by
  rw [← List.mem_map, map_identity_resources_of_lower run]
  simp

end

/-- In a tree that is lowered to the end, with nothing registered before, the resources are the
constructions that succeeded, and one of them is registered in the end if and only if the last
construction that was attempted of its identity, in whatever scope, succeeded. -/
theorem mem_store_iff_of_lower (keeps : ∀ spec ∈ specs, spec.keepsStore = true) {scope : Scope}
    {world : World} (unregistered : world.store = []) {lowered : Lowered Instance}
    {session : Session World}
    (run : lower (Memory.provider specs) options scope world = (.ok lowered, session)) :
    (scope.history (Memory.provider specs) options world).children = scope.children ∧
      lowered.root.resources.map RealizedResource.identity =
        ((scope.history (Memory.provider specs) options world).attempts.filter Prod.snd).map
          Prod.fst ∧
      ∀ resource ∈ lowered.root.resources, (resource.identity ∈ session.world.store ↔
        lastAttempt? resource.identity
          (scope.history (Memory.provider specs) options world).attempts = some true) := by
  rcases filling_of_lower run with ⟨sameChildren, name, contents, last, _, filling, rfl, rfl⟩
  have realizes := filling.realizes (Provider.maintains_true _) Contents.indexed_empty .nil
  refine ⟨sameChildren, realizes.map_identity_resourcesIn, ?_⟩
  intro resource _
  have registered := filling.mem_store_iff keeps resource.identity
  rw [openContainer_snd, Session.start, unregistered] at registered
  simpa [Registered] using registered

/-- After the sample tree, the first file is in the tree but no longer registered, because its
duplicate in the inner scope failed. The second one failed first. -/
theorem mem_store_iff_of_lower_sampleTree :
    ∃ lowered session,
      lower Memory.files .default Memory.sampleTree .empty = (.ok lowered, session) ∧
        lowered.root.resources.map RealizedResource.identity =
          [⟨"file", "/a"⟩, ⟨"file", "/c"⟩, ⟨"file", "/b"⟩] ∧
        session.world.store = [⟨"file", "/c"⟩, ⟨"file", "/b"⟩] ∧
        ∀ resource ∈ lowered.root.resources, (resource.identity ∈ session.world.store ↔
          lastAttempt? resource.identity
            (Memory.sampleTree.history Memory.files .default .empty).attempts = some true) :=
  ⟨_, _, rfl, by decide +kernel, by decide +kernel,
    (mem_store_iff_of_lower (by simp) rfl rfl).2.2⟩

/-- A file, and in an inner scope a duplicate that cannot be built and hands nothing back. -/
def Memory.treeWithFailingDuplicate : Scope :=
  { Scope.named "main" with children := [
    .declaration (file "/a" 1 [] a_ne_empty),
    .scope { Scope.named "inner" with children := [
      .declaration (file "/a" 2 [("fail", .string "plain")] a_ne_empty)] }] }

/-- Not every resource of a tree is registered when the run ends: what is found under the name of a
failed declaration is destroyed, although an outer scope has built it. -/
theorem exists_resource_notMem_store :
    ∃ lowered session,
      lower Memory.files .default Memory.treeWithFailingDuplicate .empty =
          (.ok lowered, session) ∧
        ¬ ∀ resource ∈ lowered.root.resources, resource.identity ∈ session.world.store :=
  ⟨_, _, rfl, by decide +kernel⟩

theorem mem_of_lastAttempt?_eq_some {identity : Identity} {attempts : List (Identity × Bool)}
    {succeeded : Bool} (last : lastAttempt? identity attempts = some succeeded) :
    (identity, succeeded) ∈ attempts := by
  rcases List.exists_of_findSome?_eq_some last with ⟨attempt, member, found⟩
  simp only [Option.ite_none_right_eq_some, Option.some.injEq] at found
  rcases found with ⟨rfl, rfl⟩
  simpa using member

/-- In a tree that is lowered to the end, with nothing registered before, whatever is registered in
the end is the identity of a resource of the tree. -/
theorem exists_resource_of_mem_store (keeps : ∀ spec ∈ specs, spec.keepsStore = true)
    {scope : Scope} {world : World} (unregistered : world.store = []) {lowered : Lowered Instance}
    {session : Session World}
    (run : lower (Memory.provider specs) options scope world = (.ok lowered, session)) :
    ∀ identity ∈ session.world.store,
      ∃ resource ∈ lowered.root.resources, resource.identity = identity := by
  intro identity stored
  apply (exists_resource_iff_of_lower run identity).2
  rcases filling_of_lower run with ⟨_, name, contents, last, _, filling, rfl, rfl⟩
  have registered := (filling.mem_store_iff keeps identity).1 stored
  simp only [openContainer_snd, Session.start, unregistered, Registered, List.not_mem_nil,
    and_false, or_false] at registered
  -- the last attempt succeeded, and the resources are the attempts that did
  exact mem_of_lastAttempt?_eq_some registered

/-- A file that fails after it was registered, and then in an inner scope two that are built. The
first of these is declared once more outside, and fails again after it was registered again. -/
def Memory.treeWithLeftovers : Scope :=
  { Scope.named "main" with children := [
    .declaration (file "/a" 1 [("fail", .string "registered")] a_ne_empty),
    .scope { Scope.named "inner" with children := [
      .declaration (file "/a" 3 [] a_ne_empty),
      .declaration (file "/b" 4 [] b_ne_empty)] },
    .declaration (file "/a" 6 [("fail", .string "both")] a_ne_empty)] }

theorem exists_resource_of_mem_store_treeWithLeftovers :
    ∃ lowered session,
      lower Memory.files .default Memory.treeWithLeftovers .empty = (.ok lowered, session) ∧
        lowered.failures.map Failure.cleanup = [.destroyedRetrieved, .destroyedPartial] ∧
        session.world.store = [⟨"file", "/b"⟩] ∧
        ∀ identity ∈ session.world.store,
          ∃ resource ∈ lowered.root.resources, resource.identity = identity := by
  refine ⟨_, _, rfl, by decide +kernel, by decide +kernel, ?_⟩
  exact @exists_resource_of_mem_store [⟨"file", true, []⟩] .default (by simp)
    Memory.treeWithLeftovers .empty rfl _ _ rfl

end Manifest
