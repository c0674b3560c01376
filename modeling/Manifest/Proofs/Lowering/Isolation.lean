import Manifest.Proofs.Lowering.Attributes
import Manifest.Proofs.Lowering.Filling
import Manifest.Proofs.Lowering.Observed

/-!
# Failures are isolated

A declaration that cannot be built leaves no trace in the tree. The run on a tree is compared with
the run on the same tree without the declarations that failed: whatever the first run does to the
contents of a container, the second does to contents that are alike (`Alike`), which means that they
keep the same positions and show the same attributes. A failed declaration is a step of the first
run alone, and that step changes nothing in the contents.
-/

namespace Manifest

variable {σ ι : Type} {provider : Provider σ ι} {options : Options}

/-- Two contents that keep the same positions and cannot be told apart by their attributes. -/
structure Alike (provider : Provider σ ι) (left right : Contents ι) : Prop where
  positions : left.positions = right.positions
  children : left.children.map (RealizedChild.map provider.operations.attribute?) =
    right.children.map (RealizedChild.map provider.operations.attribute?)

namespace Alike

variable {left right : Contents ι}

theorem refl (contents : Contents ι) : Alike provider contents contents := ⟨rfl, rfl⟩

/-- A resource on the left has one at the same place on the right that looks the same. -/
theorem exists_resource (alike : Alike provider left right) {position : Nat}
    {resource : RealizedResource ι}
    (there : left.children[position]? = some (.resource resource)) :
    ∃ other, right.children[position]? = some (.resource other) ∧
      resource.map provider.operations.attribute? = other.map provider.operations.attribute? := by
  have same := congrArg (fun children => children[position]?) alike.children
  simp only [List.getElem?_map, there, Option.map_some] at same
  cases found : right.children[position]? with
  | none => simp [found] at same
  | some child =>
      rw [found, Option.map_some, Option.some.injEq] at same
      cases child with
      | container container => simp [RealizedChild.map] at same
      | resource other =>
          refine ⟨other, rfl, ?_⟩
          simpa [RealizedChild.map] using same

theorem addResource (alike : Alike provider left right) {first second : RealizedResource ι}
    (same : first.map provider.operations.attribute? =
      second.map provider.operations.attribute?) :
    Alike provider (left.addResource first) (right.addResource second) := by
  have identities : first.identity = second.identity := by
    simpa [RealizedResource.map] using congrArg RealizedResource.identity same
  have lengths : left.children.length = right.children.length := by
    simpa using congrArg List.length alike.children
  constructor
  · simp only [Contents.addResource, alike.positions, identities, lengths]
  · simp only [Contents.addResource, List.map_append, alike.children, List.map_cons,
      RealizedChild.map, same, List.map_nil]

theorem addContainer (alike : Alike provider left right) {first second : Realized ι}
    (same : first.map provider.operations.attribute? =
      second.map provider.operations.attribute?) :
    Alike provider (left.addContainer first) (right.addContainer second) := by
  constructor
  · exact alike.positions
  · simp only [Contents.addContainer, List.map_append, alike.children, List.map_cons,
      RealizedChild.map, same, List.map_nil]

theorem replace (alike : Alike provider left right) (position : Nat)
    {first second : RealizedResource ι}
    (same : first.map provider.operations.attribute? =
      second.map provider.operations.attribute?) :
    Alike provider (left.replace position first) (right.replace position second) := by
  constructor
  · exact alike.positions
  · simp only [Contents.replace, List.map_set, alike.children, RealizedChild.map, same]

/-- Containers of one scope that are filled alike look the same. -/
theorem map_container (alike : Alike provider left right) (name : String)
    (scopeType : Option String) (location : Location) (defaults : Option Attributes)
    (session session' : Session σ) :
    Realized.map provider.operations.attribute? ⟨name, scopeType, location,
        (openContainer name scopeType defaults session).1, left.children⟩ =
      Realized.map provider.operations.attribute? ⟨name, scopeType, location,
        (openContainer name scopeType defaults session').1, right.children⟩ := by
  rw [Realized.map_mk, Realized.map_mk, openContainer_fst, openContainer_fst, alike.children]

end Alike

theorem mergeAttributes_failures (identity : Identity) (entries : List (String × Value))
    (handle : ι) (session : Session σ) :
    (mergeAttributes provider identity entries handle session).2.failures = session.failures := by
  induction entries generalizing handle session with
  | nil => rfl
  | cons entry rest ih =>
      rcases entry with ⟨key, value⟩
      simp only [mergeAttributes]
      split <;> simp only [ih, Session.note, Session.inWorld]

/-- In another world, a steady provider builds an instance from the same attributes. -/
theorem Provider.Steady.exists_constructed (steady : provider.Steady) {name : String}
    {resourceType : ResourceType σ ι} (known : provider.lookup name = some resourceType)
    {attributes : Attributes} {before world : σ} {handle : ι}
    (constructed : resourceType.construct attributes before = (.ok handle, world)) (other : σ) :
    ∃ handle' world', resourceType.construct attributes other = (.ok handle', world') := by
  have same := steady.refusal?_construct known attributes before other
  rcases result : resourceType.construct attributes other with ⟨error | handle', world'⟩
  · simp [constructed, result, refusal?] at same
  · exact ⟨handle', world', rfl⟩

namespace Placement

variable {scope : String} {declaration : Declaration} {contents next : Contents ι}
  {session after : Session σ} {fate : Fate}

/-- A failed declaration changes nothing in the contents. -/
theorem eq_of_failed
    (placement : Placement provider options scope declaration contents session .failed next
      after) : next = contents := by
  cases placement with
  | failed _ _ _ => rfl

/-- What is done to a declaration that does not fail is done to it in contents that are alike, too,
and no failure comes of it. -/
theorem exists_alike (steady : provider.Steady) (keeps : provider.KeepsAttributes)
    (placement : Placement provider options scope declaration contents session fate next after)
    (survives : fate ≠ .failed) {contents' : Contents ι}
    (alike : Alike provider contents contents') (session' : Session σ) :
    ∃ next' after', Placement provider options scope declaration contents' session' fate next'
      after' ∧ Alike provider next next' ∧ after'.failures = session'.failures := by
  cases placement with
  | failed _ _ _ => exact absurd rfl survives
  | @built resourceType handle located world after fresh known constructed moved =>
      rcases steady.exists_constructed known constructed session'.world with
        ⟨handle', world', constructed'⟩
      rcases moved' : provider.operations.setLocation handle' declaration.location world' with
        ⟨located', after'⟩
      rw [alike.positions] at fresh
      refine ⟨_, _, .built fresh known constructed' moved', alike.addResource ?_, rfl⟩
      have shown : provider.operations.attribute? located =
          provider.operations.attribute? located' := by
        funext key
        rw [attribute?_setLocation_construct keeps known constructed moved,
          attribute?_setLocation_construct keeps known constructed' moved']
      simp only [RealizedResource.map, shown]
  | @merged position existing kept there =>
      rcases alike.exists_resource there with ⟨other, there', same⟩
      rw [alike.positions] at kept
      refine ⟨_, _, .merged kept there', alike.replace position ?_,
        mergeAttributes_failures other.identity _ other.handle session'⟩
      simp only [RealizedResource.map, RealizedResource.mk.injEq] at same
      rcases same with ⟨identities, locations, _, shown⟩
      have merged : provider.operations.attribute?
            (mergeInto provider scope existing declaration session).1.handle =
          provider.operations.attribute?
            (mergeInto provider scope other declaration session').1.handle := by
        funext key
        rw [attribute?_mergeInto keeps, attribute?_mergeInto keeps, shown]
      simp only [RealizedResource.map, merged]
      simp only [mergeInto, identities, locations]

end Placement

/-- The run without the failed declarations keeps up with the run, and records no failure. -/
theorem Filling.exists_withoutFailed (steady : provider.Steady) (keeps : provider.KeepsAttributes)
    {scope : String} {history : History} {contents final : Contents ι} {session last : Session σ}
    (filling : Filling provider options scope history contents session final last)
    {contents' : Contents ι} (alike : Alike provider contents contents') (session' : Session σ) :
    ∃ final' last', Filling provider options scope history.withoutFailed contents' session'
      final' last' ∧ Alike provider final final' ∧ last'.failures = session'.failures := by
  induction filling generalizing contents' session' with
  | nil => exact ⟨contents', session', .nil, alike, rfl⟩
  | @entry _ _ fate _ _ _ _ _ _ _ placement tail ih =>
      by_cases fails : fate = .failed
      · -- a step of the first run alone: the second one has no such declaration
        subst fails
        rw [placement.eq_of_failed] at ih
        exact ih alike session'
      · rcases placement.exists_alike steady keeps fails alike session' with
          ⟨next', after', placement', alikeNext, noFailure⟩
        rcases ih alikeNext after' with ⟨final', last', tail', alikeFinal, noMore⟩
        refine ⟨final', last', ?_, alikeFinal, noMore.trans noFailure⟩
        cases fate with
        | failed => exact absurd rfl fails
        | built => exact .entry placement' tail'
        | merged => exact .entry placement' tail'
  | @nested _ name scopeType location defaults _ _ _ _ _ session _ _ within tail ihWithin ihTail =>
      rcases ihWithin (.refl .empty) (openContainer name scopeType defaults session').2 with
        ⟨filled', after', within', alikeWithin, noFailure⟩
      have same := alikeWithin.map_container name scopeType location defaults session session'
      rcases ihTail (alike.addContainer same) after' with
        ⟨final', last', tail', alikeFinal, noMore⟩
      rw [openContainer_snd] at noFailure
      exact ⟨final', last', .nested within' tail', alikeFinal, noMore.trans noFailure⟩

/-- Take any tree that is lowered to the end. Without the declarations whose construction failed,
it is lowered to the end in any world, no construction fails, and the trees look the same. -/
theorem lower_withoutFailed (steady : provider.Steady) (keeps : provider.KeepsAttributes)
    {scope : Scope} {world : σ} {lowered : Lowered ι} {session : Session σ}
    (run : lower provider options scope world = (.ok lowered, session)) (other : σ) :
    (scope.history provider options world).children = scope.children ∧
      ∃ lowered' session',
        lower provider options (scope.withoutFailed provider options world) other =
            (.ok lowered', session') ∧
          lowered'.failures = [] ∧
          lowered'.root.map provider.operations.attribute? =
            lowered.root.map provider.operations.attribute? := by
  rcases filling_of_lower run with ⟨sameChildren, name, contents, last, named, filling, rfl, _⟩
  rcases filling.exists_withoutFailed steady keeps (.refl .empty)
      (openContainer name scope.scopeType scope.defaults (.start other)).2 with
    ⟨contents', last', filling', alike, noFailure⟩
  rw [openContainer_snd] at noFailure
  exact ⟨sameChildren, _, _, filling'.lower_eq named, noFailure,
    (alike.map_container name scope.scopeType scope.location scope.defaults _ _).symm⟩

/-- The sample tree has failures in two scopes; one of them is a duplicate of a resource, another
one comes before its duplicate. -/
theorem lower_sampleTree_withoutFailed :
    ∃ lowered session,
      lower Memory.files .default Memory.sampleTree .empty = (.ok lowered, session) ∧
        lowered.failures.map Failure.identity = [⟨"file", "/b"⟩, ⟨"file", "/a"⟩] ∧
        ∃ lowered' session',
          lower Memory.files .default
              (Memory.sampleTree.withoutFailed Memory.files .default .empty) .empty =
              (.ok lowered', session') ∧
            lowered'.failures = [] ∧
            lowered'.root.map Memory.operations.attribute? =
              lowered.root.map Memory.operations.attribute? :=
  ⟨_, _, rfl, by decide,
    (lower_withoutFailed (Memory.steady _) (Memory.keepsAttributes _) rfl .empty).2⟩

end Manifest
