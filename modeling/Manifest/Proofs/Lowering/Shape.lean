import Mathlib.Data.List.Nodup
import Manifest.Proofs.Lowering.Realization

/-!
# The shape of realized trees

Whatever the provider does, a container has one child for each direct scope and one resource for
each identity of which a direct declaration was built, in the order of the scopes and of the first
declarations that were built (`Shaped.slots`). From this it follows that no two direct resources
share an identity and that the resource of an identity can be looked up.
-/

namespace Manifest

variable {σ ι : Type} {provider : Provider σ ι} {options : Options}

/-- The kind of a child and what it is known by. -/
def RealizedChild.slot : RealizedChild ι → Slot
  | .resource content => .resource content.identity
  | .container content => .container content.name content.scopeType content.location

def Realized.identities (container : Realized ι) : List Identity :=
  (container.children.filterMap RealizedChild.asResource?).map RealizedResource.identity

/-- A container holds one child for each thing that the history of its scope asks for, and finds
each of its direct resources by its identity. -/
structure Shaped (site : String × History) (container : Realized ι) : Prop where
  name : container.name = site.1
  slots : container.children.map RealizedChild.slot = site.2.slots []
  distinct : container.identities.Nodup
  find?_eq_some_iff : ∀ identity resource, container.find? identity = some resource ↔
    .resource resource ∈ container.children ∧ resource.identity = identity
  find?_eq_none_iff : ∀ identity, container.find? identity = none ↔
    identity ∉ site.2.builtHere

namespace Realized

/-- If no two direct resources share an identity, looking one up finds the only one there is. -/
theorem find?_eq_some_iff_of_nodup {container : Realized ι} (distinct : container.identities.Nodup)
    (identity : Identity) (resource : RealizedResource ι) :
    container.find? identity = some resource ↔
      .resource resource ∈ container.children ∧ resource.identity = identity := by
  rw [← RealizedChild.mem_filterMap_asResource?_iff]
  constructor
  · intro found
    exact ⟨List.mem_of_find?_eq_some found, by simpa using List.find?_some found⟩
  · rintro ⟨present, rfl⟩
    cases found : container.find? resource.identity with
    | none =>
        have absent := List.find?_eq_none.1 found resource present
        simp at absent
    | some other =>
        have otherPresent := List.mem_of_find?_eq_some found
        have same : other.identity = resource.identity := by simpa using List.find?_some found
        rw [List.inj_on_of_nodup_map distinct otherPresent present same]

theorem find?_eq_none_iff_notMem (container : Realized ι) (identity : Identity) :
    container.find? identity = none ↔ identity ∉ container.identities := by
  rw [find?, List.find?_eq_none]
  simp only [identities, List.mem_map, beq_iff_eq, not_exists, not_and]

end Realized

variable {fits : Declaration → List Declaration → ι → Prop}

/-- The children are those that are asked for. What was built before the history is not built again
in it. -/
theorem Realizes.map_slot_eq {scope : String} {history : History}
    {children : List (RealizedChild ι)} (realizes : Realizes fits scope history children)
    {before : List Identity} (separate : ∀ identity ∈ before, identity ∉ history.builtHere) :
    children.map RealizedChild.slot = history.slots before := by
  induction realizes generalizing before with
  | nil => rfl
  | @built _ declaration rest _ _ once fit tail ih =>
      have new : declaration.identity ∉ before := by
        intro old
        exact separate _ old List.mem_cons_self
      have further : ∀ identity ∈ declaration.identity :: before, identity ∉ rest.builtHere := by
        intro identity old
        rcases List.mem_cons.1 old with rfl | old
        · exact once
        · intro again
          exact separate identity old (List.mem_cons_of_mem _ again)
      rw [History.slots, if_neg new, List.map_cons, RealizedChild.slot, ih further]
  | @skipped _ _ fate _ _ unbuilt tail ih =>
      rw [History.builtHere_entry_of_ne unbuilt] at separate
      cases fate with
      | built => contradiction
      | failed => exact ih separate
      | merged => exact ih separate
  | nested within tail _ ih =>
      rw [History.slots, List.map_cons, RealizedChild.slot, ih separate]

theorem FilledBy.shaped {site : String × History} {container : Realized ι}
    (filled : FilledBy fits site container) : Shaped site container := by
  rcases filled with ⟨name, realizes⟩
  have identities : container.identities = site.2.builtHere := realizes.identities
  have distinct : container.identities.Nodup := identities ▸ realizes.nodup_builtHere
  refine ⟨name, realizes.map_slot_eq (by simp), distinct,
    Realized.find?_eq_some_iff_of_nodup distinct, ?_⟩
  intro identity
  rw [Realized.find?_eq_none_iff_notMem, identities]

/-- Each scope of a tree that is lowered to the end has a container in its place, which holds what
the history of the scope asks for and nothing else. -/
theorem shaped_of_lower {scope : Scope} {world : σ} {lowered : Lowered ι} {session : Session σ}
    (run : lower provider options scope world = (.ok lowered, session)) :
    (scope.history provider options world).children = scope.children ∧
      ∃ name, scope.name = some name ∧
        List.Forall₂ Shaped
          ((name, scope.history provider options world) ::
            (scope.history provider options world).scopes)
          lowered.root.containers := by
  rcases forall₂_containers_of_lower provider.maintains_true run with
    ⟨sameChildren, name, named, filled⟩
  exact ⟨sameChildren, name, named, filled.imp fun _ _ => FilledBy.shaped⟩

/-- In the root of the sample tree, the first file is built before the container and the second one,
which failed before the container, after it. -/
theorem shaped_of_lower_sampleTree :
    ∃ lowered session,
      lower Memory.files .default Memory.sampleTree .empty = (.ok lowered, session) ∧
        (Memory.sampleTree.history Memory.files .default .empty).slots [] =
          [.resource ⟨"file", "/a"⟩, .container "inner" none .unknown,
            .resource ⟨"file", "/b"⟩] ∧
        ∃ name, Memory.sampleTree.name = some name ∧
          List.Forall₂ Shaped
            ((name, Memory.sampleTree.history Memory.files .default .empty) ::
              (Memory.sampleTree.history Memory.files .default .empty).scopes)
            lowered.root.containers :=
  ⟨_, _, rfl, by decide +kernel, (shaped_of_lower rfl).2⟩

end Manifest
