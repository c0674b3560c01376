import Manifest.Proofs.Lowering.Realization

/-!
# What resources are made of

A resource is built from the first declaration of its identity that can be built, and the later ones
of its scope are merged into it. If instances keep their attributes, the value of an attribute is
then the last one that any of these declarations gives (`lastValue`), except that the name is never
changed. If they keep their location, it is that of the first of these declarations.
-/

namespace Manifest

variable {σ ι : Type} {provider : Provider σ ι} {options : Options}
  {location? : ι → Option Location}

/-- The value of an attribute in the last of some declarations that has it. -/
def lastValue (key : String) (declarations : List Declaration) : Option Value :=
  declarations.reverse.findSome? fun declaration => declaration.attribute? key

theorem lastValue_append_singleton (key : String) (declarations : List Declaration)
    (last : Declaration) :
    lastValue key (declarations ++ [last]) =
      (last.attribute? key).or (lastValue key declarations) := by
  rw [lastValue, lastValue, List.reverse_append, List.findSome?_append]
  simp

/-- An instance tells what a declaration and later ones of its identity have to say. -/
structure Carries (provider : Provider σ ι) (location? : ι → Option Location)
    (first : Declaration) (later : List Declaration) (handle : ι) : Prop where
  attribute?_eq : ∀ key, key ≠ Attributes.nameKey →
    provider.operations.attribute? handle key = lastValue key (first :: later)
  attribute?_nameKey : provider.operations.attribute? handle Attributes.nameKey =
    some (.string first.name)
  location?_eq : location? handle = some first.location

theorem Provider.KeepsAttributes.maintains_carries (keeps : provider.KeepsAttributes)
    (located : provider.KeepsLocation location?) :
    provider.Maintains (Carries provider location?) where
  built {declaration _ handle _ _ world _} known constructed moved := by
    have kept := attribute?_setLocation_construct keeps known constructed moved
    have place := located.location?_setLocation handle declaration.location world
    rw [moved] at place
    constructor
    · intro key _
      rw [kept key]
      simp [lastValue]
    · rw [kept, declaration.attribute?_nameKey]
    · exact place
  merged scope declaration session first later existing carries := by
    constructor
    · intro key other
      rw [attribute?_mergeInto keeps, if_neg other, carries.attribute?_eq key other,
        ← List.cons_append, lastValue_append_singleton]
    · rw [attribute?_mergeInto keeps, if_pos rfl, carries.attribute?_nameKey]
    · exact (location?_mergeAttributes located _ _ _ _).trans carries.location?_eq

/-- A resource of a scope, which is given with its name and its history, is made of the first
declaration of its identity that was built there and of all later ones of that identity there. -/
structure MadeIn (provider : Provider σ ι) (location? : ι → Option Location)
    (site : String × History) (resource : RealizedResource ι) : Prop where
  parent : resource.parent = some site.1
  name : provider.operations.attribute? resource.handle Attributes.nameKey =
    some (.string resource.identity.name)
  content : ∃ first later, site.2.firstBuilt? resource.identity = some (first, later) ∧
    resource.location = first.location ∧ location? resource.handle = some first.location ∧
    ∀ key, key ≠ Attributes.nameKey →
      provider.operations.attribute? resource.handle key = lastValue key (first :: later)

theorem FilledBy.madeIn {site : String × History} {container : Realized ι}
    (filled : FilledBy (Carries provider location?) site container)
    {resource : RealizedResource ι} (present : .resource resource ∈ container.children) :
    MadeIn provider location? site resource := by
  rcases filled.2.exists_firstBuilt? present with
    ⟨first, later, found, same, location, parent, carries⟩
  refine ⟨parent, ?_, first, later, found, location, carries.location?_eq,
    carries.attribute?_eq⟩
  rw [carries.attribute?_nameKey, ← same]
  rfl

/-- In a tree that is lowered to the end, every resource of every container is made of declarations
of the scope that the container stands for, and of nothing else. -/
theorem madeIn_of_lower (keeps : provider.KeepsAttributes)
    (located : provider.KeepsLocation location?) {scope : Scope} {world : σ}
    {lowered : Lowered ι} {session : Session σ}
    (run : lower provider options scope world = (.ok lowered, session)) :
    (scope.history provider options world).children = scope.children ∧
      ∃ name, scope.name = some name ∧
        List.Forall₂ (fun site container => container.name = site.1 ∧
            ∀ resource, .resource resource ∈ container.children →
              MadeIn provider location? site resource)
          ((name, scope.history provider options world) ::
            (scope.history provider options world).scopes)
          lowered.root.containers := by
  rcases forall₂_containers_of_lower (keeps.maintains_carries located) run with
    ⟨sameChildren, name, named, filled⟩
  exact ⟨sameChildren, name, named,
    filled.imp fun _ _ within => ⟨within.1, fun _ present => within.madeIn present⟩⟩

/-- In the root of the sample tree, the mode of the first file is the one that was given last. The
failed declaration of the second file counts for nothing. -/
theorem madeIn_of_lower_sampleTree :
    ∃ lowered session,
      lower Memory.files .default Memory.sampleTree .empty = (.ok lowered, session) ∧
        ((lowered.root.find? ⟨"file", "/a"⟩).bind fun resource =>
          Memory.operations.attribute? resource.handle "mode") = some (.integer 644) ∧
        ((lowered.root.find? ⟨"file", "/b"⟩).bind fun resource =>
          Memory.operations.attribute? resource.handle "fail") = none ∧
        ∃ name, Memory.sampleTree.name = some name ∧
          List.Forall₂ (fun site container => container.name = site.1 ∧
              ∀ resource, .resource resource ∈ container.children →
                MadeIn Memory.files (fun handle => handle.location) site resource)
            ((name, Memory.sampleTree.history Memory.files .default .empty) ::
              (Memory.sampleTree.history Memory.files .default .empty).scopes)
            lowered.root.containers :=
  ⟨_, _, rfl, by decide +kernel, by decide +kernel,
    (madeIn_of_lower (Memory.keepsAttributes _) (Memory.keepsLocation _) rfl).2⟩

end Manifest
