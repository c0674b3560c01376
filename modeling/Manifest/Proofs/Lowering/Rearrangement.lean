import Mathlib.Data.List.Perm.Basic
import Manifest.Proofs.Lowering.Abort
import Manifest.Proofs.Lowering.Forecast

/-!
# Rearranged trees

The children of a scope may change places as long as declarations of one identity keep their order
among themselves (`Rearranged`). If types look at attributes alone and instances keep their
attributes, this makes no difference but to the order of what comes out: a rearranged tree is
lowered to the end if and only if the tree is, each of its containers holds the same resources as
the container of the corresponding scope (`Corresponds`), and the same constructions fail.

Both runs come to what can be told from their trees, so that it is the forecasts that are compared.
What a forecast says of one identity is decided by the declarations of that identity, and these are
the same, in the same order, in a scope and in the rearranged one.

A failure may differ in one thing: whether an instance is found that the type has kept under its
name, which depends on what other scopes have registered before (`Failure.withoutRetrieval`).
-/

namespace Manifest

variable {σ ι κ : Type}

def Child.asScope? : Child → Option Scope
  | .declaration _ => none
  | .scope content => some content

def Scope.nestedIn (children : List Child) : List Scope :=
  children.filterMap Child.asScope?

/-- Children of a scope before and after some of them, or of those in scopes under them, have changed
places. Direct declarations of one identity keep their order. -/
inductive Rearranged : List Child → List Child → Prop where
  | nil : Rearranged [] []
  | declaration {declaration : Declaration} {rest rest' : List Child}
      (tail : Rearranged rest rest') :
      Rearranged (.declaration declaration :: rest) (.declaration declaration :: rest')
  | scope {name scopeType : Option String} {location : Location} {defaults : Option Attributes}
      {inner inner' rest rest' : List Child} (within : Rearranged inner inner')
      (tail : Rearranged rest rest') :
      Rearranged (.scope ⟨name, scopeType, location, defaults, inner⟩ :: rest)
        (.scope ⟨name, scopeType, location, defaults, inner'⟩ :: rest')
  | moved {children middle children' : List Child} (before : Rearranged children middle)
      (order : middle.Perm children')
      (kept : ∀ identity,
        Scope.namesakesIn identity middle = Scope.namesakesIn identity children') :
      Rearranged children children'

/-- A scope with its container, and the rearranged scope with its own: the containers say the same of
themselves and find the same resources, and the scopes inside with their containers correspond one
by one, in whatever order. -/
inductive Corresponds : Scope × Realized κ → Scope × Realized κ → Prop where
  | intro {left right : Scope × Realized κ} {inside moved inside' : List (Scope × Realized κ)}
      (rearranged : Rearranged left.1.children right.1.children)
      (same : right.1 = { left.1 with children := right.1.children })
      (described : right.2 = { left.2 with children := right.2.children })
      (found : ∀ identity, right.2.find? identity = left.2.find? identity)
      (scopes : inside.map Prod.fst = Scope.nestedIn left.1.children)
      (containers : inside.map Prod.snd =
        left.2.children.filterMap RealizedChild.asContainer?)
      (scopes' : inside'.map Prod.fst = Scope.nestedIn right.1.children)
      (containers' : inside'.map Prod.snd =
        right.2.children.filterMap RealizedChild.asContainer?)
      (matched : List.Forall₂ Corresponds inside moved) (order : moved.Perm inside') :
      Corresponds left right

namespace Rearranged

variable {children children' : List Child}

theorem refl (children : List Child) : Rearranged children children := by
  induction children using Scope.children_induction with
  | nil => exact .nil
  | declaration declaration rest ih => exact .declaration ih
  | scope scope rest ihInner ihRest =>
      rcases scope with ⟨_, _, _, _, _⟩
      exact .scope ihInner ihRest

/-- A scope may be moved to the front. -/
theorem scope_front {before after : List Child} {scope : Scope}
    (rearranged : Rearranged children (before ++ .scope scope :: after)) :
    Rearranged children (.scope scope :: (before ++ after)) := by
  apply rearranged.moved List.perm_middle
  intro identity
  induction before generalizing children with
  | nil => rfl
  | cons child rest ih =>
      have skipped := ih (refl _)
      cases child with
      | declaration declaration => simp [Scope.namesakesIn, skipped]
      | scope other => exact skipped

/-- Declarations of different identities may change places. -/
theorem swap {first second : Declaration} (different : first.identity ≠ second.identity)
    (rest : List Child) :
    Rearranged (.declaration first :: .declaration second :: rest)
      (.declaration second :: .declaration first :: rest) := by
  apply moved (refl _) (.swap _ _ _)
  intro identity
  by_cases own : first.identity = identity
  · simp [Scope.namesakesIn, own, own ▸ different.symm]
  · simp [Scope.namesakesIn, own]

theorem namesakesIn_eq (rearranged : Rearranged children children') (identity : Identity) :
    Scope.namesakesIn identity children = Scope.namesakesIn identity children' := by
  induction rearranged with
  | nil => rfl
  | declaration tail ih => simp [Scope.namesakesIn, ih]
  | scope within tail _ ih => exact ih
  | moved before order kept ih => exact ih.trans (kept identity)

end Rearranged

/-! ### Resources and containers -/

section

variable {refused : Declaration → Bool}

theorem History.filterMap_asContainer?_yield (children : List Child) (before : List Identity)
    (scope : String) :
    ((Scope.forecastIn refused before children).yield scope).filterMap
        RealizedChild.asContainer? =
      (Scope.nestedIn children).map (Scope.yield refused) := by
  induction children using Scope.children_induction generalizing before with
  | nil => rfl
  | declaration declaration rest ih =>
      simp only [Scope.forecastIn]
      split
      · exact ih before
      · split
        · exact ih before
        · exact ih (declaration.identity :: before)
  | scope nested rest _ ih =>
      simpa [yield, Scope.forecastIn, Scope.nestedIn, Child.asScope?, RealizedChild.asContainer?,
        Scope.yield] using ih before

/-- What an identity is found as is decided by the direct declarations of this identity. -/
theorem Scope.find?_yield (scope : Scope) (identity : Identity) :
    (scope.yield refused).find? identity =
      (firstAccepted? refused (namesakesIn identity scope.children)).map fun made =>
        made.1.shown (scope.name.getD "") made.2 := by
  rw [Realized.find?, Scope.yield, History.find?_yield, Scope.forecast_eq,
    History.firstBuilt?_forecastIn scope.children List.not_mem_nil]

/-- The scopes among some children with what they are going to be lowered to. -/
def Scope.sitesIn (refused : Declaration → Bool) (children : List Child) :
    List (Scope × Realized (String → Option Value)) :=
  (nestedIn children).map fun scope => (scope, scope.yield refused)

theorem Scope.map_fst_sitesIn (children : List Child) :
    (sitesIn refused children).map Prod.fst = nestedIn children := by
  simp [sitesIn, Function.comp_def]

theorem Scope.map_snd_sitesIn (scope : Scope) :
    (sitesIn refused scope.children).map Prod.snd =
      (scope.yield refused).children.filterMap RealizedChild.asContainer? := by
  rw [Scope.yield, forecast_eq, History.filterMap_asContainer?_yield]
  simp [sitesIn, Function.comp_def]

namespace Rearranged

variable {children children' : List Child}

/-- A scope corresponds to the rearranged one if the scopes inside do. -/
theorem corresponds_of_matched (rearranged : Rearranged children children')
    {moved : List (Scope × Realized (String → Option Value))}
    (matched : List.Forall₂ Corresponds (Scope.sitesIn refused children) moved)
    (order : moved.Perm (Scope.sitesIn refused children')) (name scopeType : Option String)
    (location : Location) (defaults : Option Attributes) :
    Corresponds
      (⟨name, scopeType, location, defaults, children⟩,
        Scope.yield refused ⟨name, scopeType, location, defaults, children⟩)
      (⟨name, scopeType, location, defaults, children'⟩,
        Scope.yield refused ⟨name, scopeType, location, defaults, children'⟩) := by
  have containers (inner : List Child) :=
    @Scope.map_snd_sitesIn refused ⟨name, scopeType, location, defaults, inner⟩
  refine .intro rearranged rfl rfl ?_ (Scope.map_fst_sitesIn children) (containers children)
    (Scope.map_fst_sitesIn children') (containers children') matched order
  intro identity
  simp only [Scope.find?_yield, rearranged.namesakesIn_eq identity]

theorem exists_matched (rearranged : Rearranged children children') :
    ∃ moved, List.Forall₂ Corresponds (Scope.sitesIn refused children) moved ∧
      moved.Perm (Scope.sitesIn refused children') := by
  induction rearranged with
  | nil => exact ⟨[], .nil, .nil⟩
  | declaration tail ih => exact ih
  | @scope name scopeType location defaults inner inner' rest rest' within tail ihWithin ihTail =>
      rcases ihWithin with ⟨movedInside, matchedInside, orderInside⟩
      rcases ihTail with ⟨moved, matched, order⟩
      have here := within.corresponds_of_matched matchedInside orderInside name scopeType location
        defaults
      exact ⟨_ :: moved, .cons here matched, order.cons _⟩
  | moved before order kept ih =>
      rcases ih with ⟨moved, matched, orderBefore⟩
      exact ⟨moved, matched, orderBefore.trans ((order.filterMap _).map _)⟩

end Rearranged

/-! ### Failures -/

theorem perm_of_filter_identity_eq {left right : List Declaration}
    (same : ∀ identity, (left.filter fun declaration => declaration.identity = identity) =
      right.filter fun declaration => declaration.identity = identity) : left.Perm right := by
  apply List.perm_iff_count.2
  intro declaration
  have counts := congrArg (List.count declaration) (same declaration.identity)
  rwa [List.count_filter (by simp), List.count_filter (by simp)] at counts

/-- The failures of a scope are its own and those of the scopes inside. -/
theorem History.failed_forecastIn_perm (children : List Child) (before : List Identity) :
    (Scope.forecastIn refused before children).failed.Perm
      ((Scope.forecastIn refused before children).failedHere ++
        (Scope.nestedIn children).flatMap fun scope => (scope.forecast refused).failed) := by
  induction children using Scope.children_induction generalizing before with
  | nil => exact .nil
  | declaration declaration rest ih =>
      simp only [Scope.forecastIn]
      split
      · exact ih before
      · split
        · exact (ih before).cons declaration
        · exact ih (declaration.identity :: before)
  | scope scope rest _ ih =>
      simp only [Scope.forecastIn, failed, failedHere, Scope.nestedIn, Child.asScope?,
        List.filterMap_cons, List.flatMap_cons]
      exact ((ih before).append_left _).trans (List.perm_append_comm_assoc _ _ _)

theorem Rearranged.failed_perm {children children' : List Child}
    (rearranged : Rearranged children children') (before : List Identity) :
    (Scope.forecastIn refused before children).failed.Perm
      (Scope.forecastIn refused before children').failed := by
  induction rearranged generalizing before with
  | nil => exact .nil
  | @declaration declaration _ _ tail ih =>
      simp only [Scope.forecastIn]
      split
      · exact ih before
      · split
        · exact (ih before).cons declaration
        · exact ih (declaration.identity :: before)
  | scope within tail ihWithin ihTail =>
      exact (ihWithin []).append (ihTail before)
  | @moved _ middle children' _ order kept ih =>
      have own : (Scope.forecastIn refused before middle).failedHere.Perm
          (Scope.forecastIn refused before children').failedHere := by
        apply perm_of_filter_identity_eq
        intro identity
        rw [History.filter_failedHere_forecastIn, History.filter_failedHere_forecastIn,
          kept identity]
      have inside := (order.filterMap Child.asScope?).flatMap_right fun scope =>
        (scope.forecast refused).failed
      apply (ih before).trans
      apply (History.failed_forecastIn_perm middle before).trans
      apply (own.append inside).trans
      exact (History.failed_forecastIn_perm children' before).symm

end

/-! ### Fatal errors -/

def Child.places : Child → List Place
  | .declaration content => [.declaration content]
  | .scope content => content.places

theorem Scope.placesIn_eq_flatMap (children : List Child) :
    placesIn children = children.flatMap Child.places := by
  induction children with
  | nil => rfl
  | cons child rest ih => cases child <;> simp [placesIn, Child.places, ih]

theorem Rearranged.placesIn_perm {children children' : List Child}
    (rearranged : Rearranged children children') :
    (Scope.placesIn children).Perm (Scope.placesIn children') := by
  induction rearranged with
  | nil => exact .nil
  | declaration tail ih => exact ih.cons _
  | scope within tail ihWithin ihTail => exact (ihWithin.cons _).append ihTail
  | moved before order kept ih =>
      apply ih.trans
      rw [Scope.placesIn_eq_flatMap, Scope.placesIn_eq_flatMap]
      exact order.flatMap_right Child.places

theorem exists_lower_eq_ok_iff (provider : Provider σ ι) (options : Options) (scope : Scope)
    (world : σ) :
    (∃ lowered session, lower provider options scope world = (.ok lowered, session)) ↔
      ∀ place ∈ scope.places, place.fault? provider = none := by
  have faults := @exists_lower_eq_error_iff _ _ provider options scope world
  rw [← List.findSome?_eq_none_iff]
  rcases ran : lower provider options scope world with ⟨fault | lowered, session⟩
  · have met := (faults fault).1 ⟨session, ran⟩
    simp [met]
  · simp only [Prod.mk.injEq, Except.ok.injEq, exists_and_left, exists_eq', and_true, true_iff]
    cases found : scope.places.findSome? (Place.fault? provider) with
    | none => rfl
    | some fault =>
        rcases (faults fault).2 found with ⟨other, failed⟩
        simp [ran] at failed

variable {provider : Provider σ ι} {options : Options}

/-- A rearranged tree is lowered to the end if and only if the tree is. If they are, corresponding
containers find the same resources, which show the same attributes, and the failures are the same
but for their order and for the instances that were found under their names. -/
theorem corresponds_of_lower (steady : provider.Steady) (keeps : provider.KeepsAttributes)
    {scope : Scope} {children : List Child} (rearranged : Rearranged scope.children children)
    (first second : σ) :
    ((∃ lowered session, lower provider options scope first = (.ok lowered, session)) ↔
        ∃ lowered session,
          lower provider options { scope with children } second = (.ok lowered, session)) ∧
      ∀ lowered session lowered' session',
        lower provider options scope first = (.ok lowered, session) →
        lower provider options { scope with children } second = (.ok lowered', session') →
          Corresponds (scope, lowered.root.map provider.operations.attribute?)
              ({ scope with children }, lowered'.root.map provider.operations.attribute?) ∧
            (lowered.failures.map Failure.withoutRetrieval).Perm
              (lowered'.failures.map Failure.withoutRetrieval) := by
  rcases scope with ⟨name, scopeType, location, defaults, _⟩
  constructor
  · simp only [exists_lower_eq_ok_iff]
    have places := rearranged.placesIn_perm.cons (.scope name scopeType location)
    constructor
    · intro clean place member
      apply clean
      exact places.mem_iff.2 member
    · intro clean place member
      apply clean
      exact places.mem_iff.1 member
  · intro lowered session lowered' session' run run'
    rcases forecast_of_lower steady keeps run first with ⟨root, failures⟩
    rcases forecast_of_lower steady keeps run' first with ⟨root', failures'⟩
    rcases @Rearranged.exists_matched (provider.refuses first) _ _ rearranged with
      ⟨moved, matched, order⟩
    constructor
    · rw [root, root']
      exact rearranged.corresponds_of_matched matched order name scopeType location defaults
    · rw [failures, failures']
      exact (rearranged.failed_perm []).filterMap _

/-- The sample tree with the inner scope in front, and with the files in this scope the other way
round. -/
def Memory.rearrangedTree : Scope :=
  { Scope.named "main" with children := [
    .scope { Scope.named "inner" with children := [
      .declaration (file "/c" 5 [] c_ne_empty),
      .declaration (file "/a" 4 [("fail", .string "partial")] a_ne_empty)] },
    .declaration (file "/a" 1 [("mode", .integer 600)] a_ne_empty),
    .declaration (file "/b" 2 [("fail", .string "plain")] b_ne_empty),
    .declaration (file "/b" 7 [("owner", .string "root")] b_ne_empty),
    .declaration (file "/a" 8 [("mode", .integer 644)] a_ne_empty)] }

theorem Memory.rearranged_sampleTree :
    Rearranged sampleTree.children rearrangedTree.children := by
  apply @Rearranged.scope_front _ [_, _]
  exact .declaration (.declaration (.scope (.swap (by decide) _) (.refl _)))

/-- The sample tree and the rearranged one have the same resources and the same failures, but not in
the same order. One of the failures leaves a partly built file, which is destroyed in both runs. -/
theorem corresponds_of_lower_sampleTree :
    Memory.files.Steady ∧ Memory.files.KeepsAttributes ∧
      Rearranged Memory.sampleTree.children Memory.rearrangedTree.children ∧
      ∃ lowered session lowered' session',
        lower Memory.files .default Memory.sampleTree .empty = (.ok lowered, session) ∧
          lower Memory.files .default Memory.rearrangedTree .empty = (.ok lowered', session') ∧
          lowered.failures.map Failure.identity = [⟨"file", "/b"⟩, ⟨"file", "/a"⟩] ∧
          lowered.failures.map Failure.cleanup = [.nothing, .destroyedPartial] ∧
          lowered'.failures.map Failure.identity = [⟨"file", "/a"⟩, ⟨"file", "/b"⟩] ∧
          lowered'.failures.map Failure.cleanup = [.destroyedPartial, .nothing] ∧
          Corresponds
            (Memory.sampleTree, lowered.root.map Memory.files.operations.attribute?)
            (Memory.rearrangedTree, lowered'.root.map Memory.files.operations.attribute?) ∧
          (lowered.failures.map Failure.withoutRetrieval).Perm
            (lowered'.failures.map Failure.withoutRetrieval) := by
  refine ⟨Memory.steady _, Memory.keepsAttributes _, Memory.rearranged_sampleTree, _, _, _, _, rfl,
    rfl, by decide +kernel, by decide +kernel, by decide +kernel, by decide +kernel, ?_⟩
  exact (@corresponds_of_lower _ _ Memory.files .default (Memory.steady _)
    (Memory.keepsAttributes _) Memory.sampleTree _ Memory.rearranged_sampleTree .empty .empty).2
    _ _ _ _ rfl rfl

/-- A file in an inner scope, and after it a declaration of the same file that cannot be built. -/
def Memory.treeWithFailureAfterScope : Scope :=
  { Scope.named "main" with children := [
    .scope { Scope.named "inner" with children := [.declaration (file "/a" 2 [] a_ne_empty)] },
    .declaration (file "/a" 4 [("fail", .string "plain")] a_ne_empty)] }

/-- The same with the failing declaration first. -/
def Memory.treeWithFailureBeforeScope : Scope :=
  { Scope.named "main" with children := [
    .declaration (file "/a" 4 [("fail", .string "plain")] a_ne_empty),
    .scope { Scope.named "inner" with children := [.declaration (file "/a" 2 [] a_ne_empty)] }] }

/-- What is found under the name of a failure need not be the same: if a file with the same identity
was built in another scope before, it is found and destroyed. -/
theorem exists_failures_not_perm :
    Memory.files.Steady ∧ Memory.files.KeepsAttributes ∧
      Rearranged Memory.treeWithFailureBeforeScope.children
        Memory.treeWithFailureAfterScope.children ∧
      ∃ lowered session lowered' session',
        lower Memory.files .default Memory.treeWithFailureBeforeScope .empty =
            (.ok lowered, session) ∧
          lower Memory.files .default Memory.treeWithFailureAfterScope .empty =
            (.ok lowered', session') ∧
          ¬ lowered.failures.Perm lowered'.failures := by
  refine ⟨Memory.steady _, Memory.keepsAttributes _, ?_, _, _, _, _, rfl, rfl, ?_⟩
  · exact @Rearranged.scope_front _ [_] _ _ (.refl _)
  · decide +kernel

end Manifest
