import Manifest.Proofs.Lowering.Realization

/-!
# What types accept

A type is asked once for each resource: when the resource is built, from the first declaration of
its identity in its scope that can be built. The later ones are set on the instance without asking
again (`Declaration.overlay`), so that the type need not accept what has become of it.

For types that look at the attributes alone, this is all there is to say: the type accepts the
attributes that the resource was built from, in every world, and the attributes of the resource are
these with the later declarations laid over them (`AcceptedIn`). If nothing in the later ones
differs from the first, the type accepts the outcome as well.
-/

namespace Manifest

variable {σ ι : Type} {provider : Provider σ ι} {options : Options}

/-- A type is known by a name and builds an instance from some attributes, whatever the world. -/
def Provider.Accepts (provider : Provider σ ι) (name : String) (attributes : Attributes) : Prop :=
  ∃ resourceType, provider.lookup name = some resourceType ∧
    ∀ world, refusal? (resourceType.construct attributes world).1 = none

theorem Entries.put_of_lookup {κ ν : Type} [DecidableEq κ] {key : κ} {value : ν}
    {entries : List (κ × ν)} (found : lookup key entries = some value) :
    put key value entries = entries := by
  induction entries with
  | nil => contradiction
  | cons entry rest ih =>
      rcases entry with ⟨first, old⟩
      rw [lookup] at found
      rw [put]
      split at found
      · next same =>
          rw [Option.some.injEq] at found
          rw [if_pos same, found]
      · next other => rw [if_neg other, ih found]

namespace Declaration

/-- A declaration with all attributes of later ones set on it, of one after the other. The name
stays as it is. -/
def overlay (first : Declaration) (later : List Declaration) : Declaration :=
  later.foldl (fun merged next => merged.withAttributes next.attributes.entries) first

theorem overlay_append_singleton (first : Declaration) (later : List Declaration)
    (last : Declaration) :
    first.overlay (later ++ [last]) =
      (first.overlay later).withAttributes last.attributes.entries := by
  rw [overlay, overlay, List.foldl_append, List.foldl_cons, List.foldl_nil]

theorem attribute?_withAttributes {entries : List (String × Value)}
    (distinct : (entries.map Prod.fst).Nodup) (declaration : Declaration) (key : String) :
    (declaration.withAttributes entries).attribute? key =
      if key = Attributes.nameKey then declaration.attribute? key
      else (Entries.lookup key entries).or (declaration.attribute? key) := by
  induction entries generalizing declaration with
  | nil => simp [withAttributes, Entries.lookup]
  | cons entry rest ih =>
      rcases entry with ⟨first, value⟩
      rw [List.map_cons, List.nodup_cons] at distinct
      rcases distinct with ⟨absent, distinct⟩
      have later := ih distinct (declaration.withAttribute first value)
      rw [attribute?_withAttribute] at later
      refine later.trans ?_
      by_cases asked : first = key
      · subst asked
        have missing : Entries.lookup first rest = none :=
          (Entries.lookup_eq_none_iff first rest).2 absent
        simp [Entries.lookup, missing]
      · simp [Entries.lookup, asked]

theorem withAttribute_eq_self {declaration : Declaration} {key : String} {value : Value}
    (unchanged : key = Attributes.nameKey ∨ declaration.attribute? key = some value) :
    declaration.withAttribute key value = declaration := by
  rw [withAttribute]
  split
  · rfl
  · next other =>
      apply ext
      · rfl
      · exact Dictionary.ext (Entries.put_of_lookup (unchanged.resolve_left other))
      · rfl

theorem withAttributes_eq_self {declaration : Declaration} {entries : List (String × Value)}
    (unchanged : ∀ entry ∈ entries,
      entry.1 = Attributes.nameKey ∨ declaration.attribute? entry.1 = some entry.2) :
    declaration.withAttributes entries = declaration := by
  induction entries with
  | nil => rfl
  | cons entry rest ih =>
      rw [withAttributes, List.foldl_cons,
        withAttribute_eq_self (unchanged entry List.mem_cons_self)]
      exact ih fun entry member => unchanged entry (List.mem_cons_of_mem _ member)

theorem overlay_eq_self {first : Declaration} {later : List Declaration}
    (unchanged : ∀ next ∈ later, ∀ entry ∈ next.attributes.entries,
      entry.1 = Attributes.nameKey ∨ first.attribute? entry.1 = some entry.2) :
    first.overlay later = first := by
  induction later with
  | nil => rfl
  | cons next rest ih =>
      rw [overlay, List.foldl_cons, withAttributes_eq_self (unchanged next List.mem_cons_self)]
      exact ih fun next member => unchanged next (List.mem_cons_of_mem _ member)

end Declaration

/-- An instance was accepted as its first declaration asked for it, and holds the later ones as
well. -/
structure Accepted (provider : Provider σ ι) (first : Declaration) (later : List Declaration)
    (handle : ι) : Prop where
  accepts : provider.Accepts first.resourceType first.attributes
  attribute?_eq : ∀ key,
    provider.operations.attribute? handle key = (first.overlay later).attribute? key

theorem Provider.Steady.maintains_accepted (steady : provider.Steady)
    (keeps : provider.KeepsAttributes) : provider.Maintains (Accepted provider) where
  built {declaration resourceType handle located before world after} known constructed moved := by
    constructor
    · refine ⟨resourceType, known, ?_⟩
      intro other
      rw [steady.refusal?_construct known declaration.attributes other before, constructed]
      rfl
    · exact attribute?_setLocation_construct keeps known constructed moved
  merged scope declaration session first later existing accepted := by
    refine ⟨accepted.accepts, ?_⟩
    intro key
    rw [attribute?_mergeInto keeps, accepted.attribute?_eq, Declaration.overlay_append_singleton,
      Declaration.attribute?_withAttributes declaration.attributes.distinct]
    rfl

/-- The type of a resource, whose scope is given with its name and its history, has accepted the
first declaration of its identity that was built there; the later ones were laid over it. If these
say nothing new, the type accepts the outcome. -/
structure AcceptedIn (provider : Provider σ ι) (site : String × History)
    (resource : RealizedResource ι) : Prop where
  parent : resource.parent = some site.1
  content : ∃ first later, site.2.firstBuilt? resource.identity = some (first, later) ∧
    provider.Accepts resource.identity.resourceType first.attributes ∧
    (∀ key, provider.operations.attribute? resource.handle key =
      (first.overlay later).attributes.get? key) ∧
    ((∀ next ∈ later, ∀ entry ∈ next.attributes.entries,
        entry.1 = Attributes.nameKey ∨ first.attribute? entry.1 = some entry.2) →
      provider.Accepts resource.identity.resourceType (first.overlay later).attributes)

theorem FilledBy.acceptedIn {site : String × History} {container : Realized ι}
    (filled : FilledBy (Accepted provider) site container)
    {resource : RealizedResource ι} (present : .resource resource ∈ container.children) :
    AcceptedIn provider site resource := by
  rcases filled.2.exists_firstBuilt? present with
    ⟨first, later, found, same, _, parent, accepted⟩
  have accepts : provider.Accepts resource.identity.resourceType first.attributes :=
    same ▸ accepted.accepts
  refine ⟨parent, first, later, found, accepts, accepted.attribute?_eq, ?_⟩
  intro unchanged
  rw [Declaration.overlay_eq_self unchanged]
  exact accepts

/-- In a tree that is lowered to the end, every resource of every container was accepted by its type
as it was first declared in the scope that the container stands for. What later declarations there
have added was not asked for again. -/
theorem acceptedIn_of_lower (steady : provider.Steady) (keeps : provider.KeepsAttributes)
    {scope : Scope} {world : σ} {lowered : Lowered ι} {session : Session σ}
    (run : lower provider options scope world = (.ok lowered, session)) :
    (scope.history provider options world).children = scope.children ∧
      (∃ name, scope.name = some name ∧
        List.Forall₂ (fun site container => container.name = site.1 ∧
            ∀ resource, .resource resource ∈ container.children →
              AcceptedIn provider site resource)
          ((name, scope.history provider options world) ::
            (scope.history provider options world).scopes)
          lowered.root.containers) ∧
      ∀ resource ∈ lowered.root.resources,
        ∃ container ∈ lowered.root.containers, .resource resource ∈ container.children := by
  rcases forall₂_containers_of_lower (steady.maintains_accepted keeps) run with
    ⟨sameChildren, name, named, filled⟩
  refine ⟨sameChildren, ⟨name, named, ?_⟩, ?_⟩
  · exact filled.imp fun _ _ within => ⟨within.1, fun _ present => within.acceptedIn present⟩
  · intro resource present
    exact Realized.mem_resources_iff.1 present

/-- In the sample tree, the mode of the first file is laid over by its last declaration. -/
theorem acceptedIn_of_lower_sampleTree :
    Memory.files.Steady ∧ Memory.files.KeepsAttributes ∧ ∃ lowered session,
      lower Memory.files .default Memory.sampleTree .empty = (.ok lowered, session) ∧
        lowered.root.resources.length = 3 ∧
        (∃ name, Memory.sampleTree.name = some name ∧
          List.Forall₂ (fun site container => container.name = site.1 ∧
              ∀ resource, .resource resource ∈ container.children →
                AcceptedIn Memory.files site resource)
            ((name, Memory.sampleTree.history Memory.files .default .empty) ::
              (Memory.sampleTree.history Memory.files .default .empty).scopes)
            lowered.root.containers) ∧
        ∀ resource ∈ lowered.root.resources,
          ∃ container ∈ lowered.root.containers, .resource resource ∈ container.children :=
  ⟨Memory.steady _, Memory.keepsAttributes _, _, _, rfl, by decide +kernel,
    (acceptedIn_of_lower (Memory.steady _) (Memory.keepsAttributes _) rfl).2⟩

/-- A file, and in the same scope a duplicate with attributes that no file can be built from. -/
def Memory.treeWithRefusedDuplicate : Scope :=
  { Scope.named "main" with children := [
    .declaration (file "/a" 1 [] a_ne_empty),
    .declaration (file "/a" 2 [("fail", .string "plain")] a_ne_empty)] }

/-- Not every resource is accepted as it is in the end: the duplicate is merged into the file
without a look at what it says. -/
theorem exists_resource_not_accepts :
    Memory.files.Steady ∧ Memory.files.KeepsAttributes ∧ ∃ lowered session,
      lower Memory.files .default Memory.treeWithRefusedDuplicate .empty =
          (.ok lowered, session) ∧
        ¬ ∀ resource ∈ lowered.root.resources,
          Memory.files.Accepts resource.identity.resourceType resource.handle.attributes := by
  refine ⟨Memory.steady _, Memory.keepsAttributes _, _, _, rfl, ?_⟩
  intro accepted
  rcases accepted _ List.mem_cons_self with ⟨resourceType, known, builds⟩
  rcases Memory.exists_spec_of_lookup known with ⟨spec, described, _, rfl⟩
  obtain rfl := List.mem_singleton.1 described
  have refused := builds .empty
  revert refused
  decide +kernel

end Manifest
