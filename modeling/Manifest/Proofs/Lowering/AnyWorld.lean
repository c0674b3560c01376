import Manifest.Proofs.Lowering.Lockstep
import Manifest.Proofs.Provider.Unordered

/-!
# Lowering in any world

If what a type builds is decided by the attributes alone (`Provider.Determined`), the world in which
something is lowered decides next to nothing. Runs in two worlds go in lockstep, whatever the worlds
are and whatever the sessions hold. The one thing that may differ is whether a failure finds an
instance that the type has kept under its name (`Failure.withoutRetrieval`).
-/

namespace Manifest

variable {σ ι ν : Type}

/-- What a type builds is decided by the attributes, and what becomes of an instance by what is done
with it. Of instances, only what a view tells has to be the same in all worlds. -/
structure Provider.Determined (provider : Provider σ ι) (view : ι → ν) : Prop where
  construct : ∀ {name : String} {resourceType : ResourceType σ ι},
    provider.lookup name = some resourceType → ∀ attributes world world',
      viewOutcome view (resourceType.construct attributes world).1 =
        viewOutcome view (resourceType.construct attributes world').1
  setAttribute : ∀ {handle handle' : ι}, view handle = view handle' → ∀ key value world world',
    view (provider.operations.setAttribute handle key value world).1 =
      view (provider.operations.setAttribute handle' key value world').1
  setLocation : ∀ {handle handle' : ι}, view handle = view handle' → ∀ location world world',
    view (provider.operations.setLocation handle location world).1 =
      view (provider.operations.setLocation handle' location world').1

/-- A type in memory builds the very same instance in all worlds. -/
theorem Memory.determined (specs : List Spec) :
    (provider specs).Determined (id : Instance → Instance) where
  construct known attributes world world' := by
    rcases exists_spec_of_lookup known with ⟨spec, _, _, rfl⟩
    simp only [Spec.resourceType, Spec.construct]
    split
    · rfl
    · split <;> rfl
  setAttribute same key value world world' := by
    rw [id, id] at same
    rw [same]
    rfl
  setLocation same location world world' := by
    rw [id, id] at same
    rw [same]
    rfl

variable {provider : Provider σ ι} {view : ι → ν}

/-- Two runs are alike if they do the same, in whatever worlds. -/
def Coupling.inAnyWorld (σ : Type) (view : ι → ν) : Coupling σ ι where
  declarations := Eq
  mappings := Eq
  instances first second := view first = view second
  failures first second := first.withoutRetrieval = second.withoutRetrieval
  sessions _ _ := True

namespace Provider.Determined

theorem view_mergeAttributes (determined : provider.Determined view) (identity : Identity)
    (entries : List (String × Value)) {handle handle' : ι} (same : view handle = view handle')
    (session session' : Session σ) :
    view (mergeAttributes provider identity entries handle session).1 =
      view (mergeAttributes provider identity entries handle' session').1 := by
  induction entries generalizing handle handle' session session' with
  | nil => exact same
  | cons entry rest ih =>
      rcases entry with ⟨key, value⟩
      simp only [mergeAttributes]
      split
      · apply ih same
      · apply ih
        apply determined.setAttribute same

theorem resolveDeclaration (determined : provider.Determined view) (options : Options)
    (declaration : Declaration) (session session' : Session σ) :
    Outcome.Related
      (Resolution.Related (fun first second => view first = view second)
        fun first second => first.withoutRetrieval = second.withoutRetrieval)
      (fun _ _ => True) (resolveDeclaration provider options declaration session)
      (resolveDeclaration provider options declaration session') := by
  cases known : provider.lookup declaration.resourceType with
  | none =>
      simp only [Manifest.resolveDeclaration, known]
      exact .failed trivial
  | some resourceType =>
      have outcomes :=
        determined.construct known declaration.attributes session.world session'.world
      simp only [Manifest.resolveDeclaration, known]
      generalize resourceType.construct declaration.attributes session.world = built at outcomes
      generalize resourceType.construct declaration.attributes session'.world = built' at outcomes
      rcases built with ⟨outcome, world⟩
      rcases built' with ⟨outcome', world'⟩
      dsimp only at outcomes
      rcases cases_of_viewOutcome_eq outcomes with ⟨handle, handle', rfl, rfl, same⟩ |
        ⟨message, remains, remains', rfl, rfl, remaining⟩
      · exact .done (.realized (determined.setLocation same _ _ _)) trivial
      · have left : remains.isSome = remains'.isSome := by
          have mapped := congrArg Option.isSome remaining
          rwa [Option.isSome_map, Option.isSome_map] at mapped
        simp only [recordFailure_eq]
        refine .done (.failed ?_) trivial
        simp only [Failure.withoutRetrieval, withoutRetrieval_cleanUp, left]

theorem lockstep (determined : provider.Determined view) (options : Options) :
    Lockstep provider options options (.inAnyWorld σ view) where
  identity_eq same := by rw [same]
  seeds same name scopeType := by rw [Option.Rel.eq_of_eq same]; rfl
  opens _ _ _ _ := trivial
  resolves {declaration _ session session'} same _ := by
    subst same
    exact determined.resolveDeclaration options declaration session session'
  merges {declaration _ handle handle' session session'} same alike _ identity := by
    subst same
    exact ⟨determined.view_mergeAttributes identity _ alike session session', trivial⟩

theorem resolveScope (determined : provider.Determined view) (options : Options) (scope : Scope)
    (session session' : Session σ) :
    Outcome.Related
      (Realized.Mirrors (fun first second => view first = view second) Eq)
      (fun _ _ => True) (resolveScope provider options scope session)
      (resolveScope provider options scope session') := by
  have parallel : Parallel Eq Eq [.scope scope] [.scope scope] :=
    .refl (fun _ => rfl) (fun _ => rfl) _
  exact (determined.lockstep options).resolveScope parallel trivial

end Provider.Determined

end Manifest
