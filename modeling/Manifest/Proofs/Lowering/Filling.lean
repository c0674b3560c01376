import Manifest.Proofs.Lowering.History
import Manifest.Proofs.Lowering.Index

/-!
# Runs, step by step

`Placement` says what lowering one declaration can do to the contents of a container, and `Filling`
says the same of a whole list of children. A run that ends well is a filling by its own history
(`filling_of_resolveChildren`) and every filling is a run (`Filling.resolveChildren_eq`), so that
what holds of all runs can be proved by induction on fillings: one case for each thing that can
happen to a child.
-/

namespace Manifest

variable {σ ι : Type}

section

variable (provider : Provider σ ι) (options : Options)

/-- Lowering a declaration into contents in a session gives it a fate and leads to other contents
and another session. -/
inductive Placement (scope : String) (declaration : Declaration) (contents : Contents ι)
    (session : Session σ) : Fate → Contents ι → Session σ → Prop where
  | built {resourceType : ResourceType σ ι} {handle located : ι} {world after : σ}
      (fresh : contents.positions.get? declaration.identity = none)
      (known : provider.lookup declaration.resourceType = some resourceType)
      (constructed :
        resourceType.construct declaration.attributes session.world = (.ok handle, world))
      (moved :
        provider.operations.setLocation handle declaration.location world = (located, after)) :
      Placement scope declaration contents session .built
        (contents.addResource
          ⟨declaration.identity, declaration.location, some scope, located⟩)
        (session.inWorld after)
  | failed {resourceType : ResourceType σ ι} {error : ConstructionError ι} {world : σ}
      (fresh : contents.positions.get? declaration.identity = none)
      (known : provider.lookup declaration.resourceType = some resourceType)
      (refused :
        resourceType.construct declaration.attributes session.world = (.error error, world)) :
      Placement scope declaration contents session .failed contents
        (recordFailure provider options resourceType declaration error
          (session.inWorld world)).2
  | merged {position : Nat} {existing : RealizedResource ι}
      (kept : contents.positions.get? declaration.identity = some position)
      (there : contents.children[position]? = some (.resource existing)) :
      Placement scope declaration contents session .merged
        (contents.replace position (mergeInto provider scope existing declaration session).1)
        (mergeInto provider scope existing declaration session).2

/-- Lowering the children of a scope into contents in a session has a history and leads to other
contents and another session. -/
inductive Filling : String → History → Contents ι → Session σ → Contents ι → Session σ → Prop where
  | nil {scope : String} {contents : Contents ι} {session : Session σ} :
      Filling scope .nil contents session contents session
  | entry {scope : String} {declaration : Declaration} {fate : Fate} {rest : History}
      {contents next final : Contents ι} {session after last : Session σ}
      (placement : Placement provider options scope declaration contents session fate next after)
      (tail : Filling scope rest next after final last) :
      Filling scope (.entry declaration fate rest) contents session final last
  | nested {scope name : String} {scopeType : Option String} {location : Location}
      {defaults : Option Attributes} {inner rest : History}
      {contents filled final : Contents ι} {session after last : Session σ}
      (within : Filling name inner .empty (openContainer name scopeType defaults session).2
        filled after)
      (tail : Filling scope rest
        (contents.addContainer ⟨name, scopeType, location,
          (openContainer name scopeType defaults session).1, filled.children⟩)
        after final last) :
      Filling scope (.nested name scopeType location defaults inner rest) contents session
        final last

end

variable {provider : Provider σ ι} {options : Options}

namespace Placement

variable {scope : String} {declaration : Declaration} {contents next : Contents ι}
  {session after : Session σ} {fate : Fate}

theorem placeDeclaration_eq
    (placement : Placement provider options scope declaration contents session fate next after) :
    placeDeclaration provider options scope declaration contents session = (.ok next, after) := by
  cases placement with
  | built fresh known constructed moved =>
      simp only [placeDeclaration, fresh, resolveDeclaration, known, constructed, moved,
        Outcome.andThen]
  | failed fresh known refused =>
      simp only [placeDeclaration, fresh, resolveDeclaration, known, refused, Outcome.andThen]
  | merged kept there => simp only [placeDeclaration, kept, there]

theorem fateOf_eq
    (placement : Placement provider options scope declaration contents session fate next after) :
    fateOf provider declaration contents session = fate := by
  cases placement with
  | built fresh known constructed _ =>
      simp [fateOf, Dictionary.contains, fresh, known, constructed]
  | failed fresh known refused => simp [fateOf, Dictionary.contains, fresh, known, refused]
  | merged kept _ => simp [fateOf, Dictionary.contains, kept]

/-- Nothing that lowering one declaration does separates positions from children. -/
theorem indexed
    (placement : Placement provider options scope declaration contents session fate next after)
    (before : contents.Indexed) : next.Indexed := by
  cases placement with
  | built fresh _ _ _ => exact before.addResource fresh
  | failed _ _ _ => exact before
  | merged kept there => exact before.replace there rfl

end Placement

/-- What lowering one declaration does is one of the three things that `Placement` allows. The
contents have to be indexed: it is then a resource that stands at the position of an identity. -/
theorem placement_of_placeDeclaration {scope : String} {declaration : Declaration}
    {contents next : Contents ι} {session after : Session σ} (indexed : contents.Indexed)
    (placed : placeDeclaration provider options scope declaration contents session =
      (.ok next, after)) :
    ∃ fate, Placement provider options scope declaration contents session fate next after := by
  unfold placeDeclaration at placed
  cases kept : contents.positions.get? declaration.identity with
  | some position =>
      rcases (indexed declaration.identity position).1 kept with ⟨existing, there, _⟩
      simp only [kept, there, Prod.mk.injEq, Except.ok.injEq] at placed
      rcases placed with ⟨rfl, rfl⟩
      exact ⟨.merged, .merged kept there⟩
  | none =>
      simp only [kept, resolveDeclaration] at placed
      cases known : provider.lookup declaration.resourceType with
      | none => simp [known, Outcome.andThen] at placed
      | some resourceType =>
          simp only [known] at placed
          rcases constructed : resourceType.construct declaration.attributes session.world with
            ⟨error | handle, world⟩
          · simp only [constructed, Outcome.andThen, Prod.mk.injEq, Except.ok.injEq] at placed
            rcases placed with ⟨rfl, rfl⟩
            exact ⟨.failed, .failed kept known constructed⟩
          · simp only [constructed, Outcome.andThen, Prod.mk.injEq, Except.ok.injEq] at placed
            rcases placed with ⟨rfl, rfl⟩
            exact ⟨.built, .built kept known constructed rfl⟩

namespace Filling

variable {scope : String} {history : History} {contents final : Contents ι}
  {session last : Session σ}

theorem resolveChildren_eq
    (filling : Filling provider options scope history contents session final last) :
    resolveChildren provider options scope history.children contents session =
      (.ok final, last) := by
  induction filling with
  | nil => rfl
  | entry placement tail ih =>
      simp only [History.children, resolveChildren, placement.placeDeclaration_eq,
        Outcome.andThen, ih]
  | nested within tail ihWithin ihTail =>
      simp only [History.children, resolveChildren, resolveScope, ihWithin, Outcome.andThen,
        ihTail]

/-- The history of a filling is the one that is read off the run. -/
theorem historyAmong_eq
    (filling : Filling provider options scope history contents session final last) :
    historyAmong provider options scope history.children contents session = history := by
  induction filling with
  | nil => rfl
  | entry placement tail ih =>
      simp only [History.children, historyAmong, placement.placeDeclaration_eq, placement.fateOf_eq,
        ih]
  | nested within tail ihWithin ihTail =>
      simp only [History.children, historyAmong, historyOf, resolveScope,
        within.resolveChildren_eq, ihWithin, Outcome.andThen, ihTail]

theorem indexed (filling : Filling provider options scope history contents session final last)
    (before : contents.Indexed) : final.Indexed := by
  induction filling with
  | nil => exact before
  | entry placement tail ih => exact ih (placement.indexed before)
  | nested within tail ihWithin ihTail => exact ihTail (before.addContainer _)

end Filling

/-- A run over children that ends well is a filling. -/
theorem exists_filling_of_resolveChildren {scope : String} {children : List Child}
    {contents final : Contents ι} {session last : Session σ} (indexed : contents.Indexed)
    (run : resolveChildren provider options scope children contents session =
      (.ok final, last)) :
    ∃ history, history.children = children ∧
      Filling provider options scope history contents session final last := by
  induction children using Scope.children_induction generalizing scope contents session final last
    with
  | nil =>
      simp only [resolveChildren, Prod.mk.injEq, Except.ok.injEq] at run
      rcases run with ⟨rfl, rfl⟩
      exact ⟨.nil, rfl, .nil⟩
  | declaration declaration rest ih =>
      simp only [resolveChildren] at run
      rcases placed : placeDeclaration provider options scope declaration contents session with
        ⟨fault | next, after⟩
      · simp [placed, Outcome.andThen] at run
      · simp only [placed, Outcome.andThen] at run
        rcases placement_of_placeDeclaration indexed placed with ⟨fate, placement⟩
        rcases ih (placement.indexed indexed) run with ⟨history, rfl, tail⟩
        exact ⟨.entry declaration fate history, rfl, .entry placement tail⟩
  | scope nested rest ihNested ihRest =>
      rcases nested with ⟨name, scopeType, location, defaults, children⟩
      cases name with
      | none => simp [resolveChildren, resolveScope, Outcome.andThen] at run
      | some name =>
          simp only [resolveChildren, resolveScope] at run
          rcases ran : resolveChildren provider options name children .empty
            (openContainer name scopeType defaults session).2 with ⟨fault | filled, after⟩
          · simp [ran, Outcome.andThen] at run
          · simp only [ran, Outcome.andThen] at run
            rcases ihNested Contents.indexed_empty ran with ⟨inner, rfl, within⟩
            rcases ihRest (indexed.addContainer _) run with ⟨history, rfl, tail⟩
            exact ⟨.nested name scopeType location defaults inner history, rfl,
              .nested within tail⟩

/-- A run over children that ends well is a filling by its own history. -/
theorem filling_of_resolveChildren {scope : String} {children : List Child}
    {contents final : Contents ι} {session last : Session σ} (indexed : contents.Indexed)
    (run : resolveChildren provider options scope children contents session =
      (.ok final, last)) :
    (historyAmong provider options scope children contents session).children = children ∧
      Filling provider options scope
        (historyAmong provider options scope children contents session)
        contents session final last := by
  rcases exists_filling_of_resolveChildren indexed run with ⟨history, rfl, filling⟩
  rw [filling.historyAmong_eq]
  exact ⟨rfl, filling⟩

/-- The tree of a well-ended run is that of a filling of its root, by the history of the run. -/
theorem filling_of_lower {scope : Scope} {world : σ} {lowered : Lowered ι} {session : Session σ}
    (run : lower provider options scope world = (.ok lowered, session)) :
    (scope.history provider options world).children = scope.children ∧
      ∃ name contents last, scope.name = some name ∧
        Filling provider options name (scope.history provider options world) .empty
          (openContainer name scope.scopeType scope.defaults (.start world)).2 contents last ∧
        lowered = ⟨⟨name, scope.scopeType, scope.location,
          (openContainer name scope.scopeType scope.defaults (.start world)).1,
          contents.children⟩, last.failures⟩ ∧
        session = { last with failures := [] } := by
  rcases scope with ⟨name, scopeType, location, defaults, children⟩
  cases name with
  | none => simp [lower, resolveScope, Outcome.andThen] at run
  | some name =>
      simp only [lower, resolveScope] at run
      rcases ran : resolveChildren provider options name children .empty
        (openContainer name scopeType defaults (.start world)).2 with ⟨fault | filled, last⟩
      · simp [ran, Outcome.andThen] at run
      · simp only [ran, Outcome.andThen, Session.takeFailures, Prod.mk.injEq,
          Except.ok.injEq] at run
        rcases run with ⟨rfl, rfl⟩
        rcases filling_of_resolveChildren Contents.indexed_empty ran with ⟨same, filling⟩
        exact ⟨same, name, filled, last, rfl, filling, rfl, rfl⟩

/-- A filling of the root of a tree is a run that ends well. -/
theorem Filling.lower_eq {scope : Scope} {name : String} {history : History} {world : σ}
    {contents : Contents ι} {last : Session σ} (named : scope.name = some name)
    (filling : Filling provider options name history .empty
      (openContainer name scope.scopeType scope.defaults (.start world)).2 contents last) :
    lower provider options { scope with children := history.children } world =
      (.ok ⟨⟨name, scope.scopeType, scope.location,
        (openContainer name scope.scopeType scope.defaults (.start world)).1,
        contents.children⟩, last.failures⟩, { last with failures := [] }) := by
  rcases scope with ⟨_, scopeType, location, defaults, _⟩
  subst named
  simp only [lower, resolveScope, filling.resolveChildren_eq, Outcome.andThen,
    Session.takeFailures]

end Manifest
